import Turnwise.Settings
import Turnwise.Proofs.Path.Components
import Turnwise.Proofs.Text.Blank

/-!
# Where the history lies

An override that is an absolute path is taken as it is, and any other names a path from the
home directory.  Such a path lies under the home directory, with one exception: what stands
after a tilde and a slash can itself begin with a slash, and then it replaces the home
directory.  Main result: that is the only way out of the home directory.
-/

namespace Turnwise
namespace Settings

open Turnwise.Path (LiesUnder isAbsolute)

/-- What an override says, without the blanks around it. -/
def said (override : Option Text) : Text :=
  (override.getD []).trim

/-- The path that an override names from a home directory. -/
def fromHome (raw : Text) (home : Path) : Path :=
  if raw.isEmpty then Path.join home historyName
  else if raw = ['~'] then home
  else Path.join home ((Text.after? ['~', '/'] raw).getD raw)

/-- An override that is no mere tilde names a path that is seen from the home directory. -/
theorem fromHome_eq_join
    {raw : Text}
    (nonempty : raw ≠ [])
    (named : raw ≠ ['~'])
    (home : Path) :
    fromHome raw home = Path.join home ((Text.after? ['~', '/'] raw).getD raw) := by
  rw [fromHome, if_neg (mt List.isEmpty_iff.mp nonempty), if_neg named]

/-- Only an override that is not absolute asks for a home directory. -/
theorem historyPath_eq
    (home : Option Path)
    (override : Option Text) :
    historyPath home override =
      if isAbsolute (said override) then some (said override)
      else home.map (fromHome (said override)) := by
  rw [historyPath, ← said]
  generalize said override = raw
  by_cases empty : raw = []
  · subst empty
    rfl
  by_cases tilde : raw = ['~']
  · subst tilde
    exact Option.map_id'.symm
  rw [if_neg (mt List.isEmpty_iff.mp empty), if_neg tilde,
    funext (fromHome_eq_join empty tilde)]
  cases found : Text.after? ['~', '/'] raw with
  | none => rfl
  | some rest =>
      have split : raw = '~' :: '/' :: rest := (Text.after?_eq_some_iff.mp found).symm
      subst split
      rfl

/-- The path lies under the home directory unless an absolute path after a tilde and a slash
leads elsewhere. -/
theorem fromHome_liesUnder_iff
    {raw : Text}
    (relative : isAbsolute raw = false)
    (home : Path) :
    LiesUnder (fromHome raw home) home ↔
      ∀ rest, raw = '~' :: '/' :: rest → isAbsolute rest = true → LiesUnder rest home := by
  by_cases empty : raw = []
  · subst empty
    exact iff_of_true (Path.join_liesUnder rfl home) (fun _ impossible => nomatch impossible)
  by_cases tilde : raw = ['~']
  · subst tilde
    exact iff_of_true (LiesUnder.refl home) (fun _ impossible => nomatch impossible)
  rw [fromHome_eq_join empty tilde]
  cases found : Text.after? ['~', '/'] raw with
  | none =>
      refine iff_of_true (Path.join_liesUnder relative home) fun rest split => ?_
      have present : Text.after? ['~', '/'] raw = some rest :=
        Text.after?_eq_some_iff.mpr split.symm
      rw [found] at present
      cases present
  | some rest =>
      have split : raw = '~' :: '/' :: rest := (Text.after?_eq_some_iff.mp found).symm
      subst split
      cases absolute : isAbsolute rest with
      | false =>
          refine iff_of_true (Path.join_liesUnder absolute home) ?_
          rintro other ⟨⟩ impossible
          rw [absolute] at impossible
          cases impossible
      | true =>
          rw [Option.getD_some, Path.join_of_isAbsolute absolute]
          constructor
          · rintro under other ⟨⟩ -
            exact under
          · intro under
            exact under rest rfl absolute

/-- An absolute override is taken as it is, and without a home directory any other gives no
path.  With one, a blank override gives the file of the usual name there, a tilde gives the
home directory itself, and a path that is not absolute lies under the home directory, unless
an absolute path that leads elsewhere stands after a tilde and a slash. -/
theorem historyPath_liesUnder_iff
    (override : Option Text) :
    (∀ home, historyPath home override = none ↔
      home = none ∧ isAbsolute (said override) = false) ∧
    (isAbsolute (said override) = true →
      ∀ home, historyPath home override = some (said override)) ∧
    ((∀ text ∈ override, Text.blank text = true) →
      ∀ home, historyPath (some home) override = some (Path.join home historyName)) ∧
    (said override = ['~'] →
      ∀ home, historyPath (some home) override = some home) ∧
    (isAbsolute (said override) = false →
      ∀ home, ∃ path, historyPath (some home) override = some path ∧
        (LiesUnder path home ↔
          ∀ rest, said override = '~' :: '/' :: rest → isAbsolute rest = true →
            LiesUnder rest home)) := by
  refine ⟨fun home => ?_, fun absolute home => ?_, fun blank home => ?_, fun tilde home => ?_,
    fun relative home => ?_⟩
  · rw [historyPath_eq]
    cases isAbsolute (said override) <;> simp
  · rw [historyPath_eq, if_pos absolute]
  · have empty : said override = [] := by
      cases override with
      | none => rfl
      | some text =>
          rw [said, Option.getD_some, ← List.isEmpty_iff, Text.isEmpty_trim]
          exact blank text rfl
    rw [historyPath_eq, empty]
    rfl
  · rw [historyPath_eq, tilde]
    rfl
  · refine ⟨fromHome (said override) home, ?_, fromHome_liesUnder_iff relative home⟩
    rw [historyPath_eq, relative]
    rfl

/-- Each kind of override, with blanks around it. -/
theorem historyPath_liesUnder_iff_spaced :
    historyPath none (some " /var/hist ".toList) = some (said (some " /var/hist ".toList)) ∧
    historyPath (some "/home/dev".toList) (some " \t".toList) =
      some (Path.join "/home/dev".toList historyName) ∧
    historyPath (some "/home/dev".toList) (some " ~ ".toList) = some "/home/dev".toList ∧
    ∃ path, historyPath (some "/home/dev".toList) (some " ~/hist//go ".toList) = some path ∧
      LiesUnder path "/home/dev".toList := by
  obtain ⟨-, absolute, -⟩ := historyPath_liesUnder_iff (some " /var/hist ".toList)
  obtain ⟨-, -, blank, -⟩ := historyPath_liesUnder_iff (some " \t".toList)
  obtain ⟨-, -, -, tilde, -⟩ := historyPath_liesUnder_iff (some " ~ ".toList)
  obtain ⟨-, -, -, -, relative⟩ := historyPath_liesUnder_iff (some " ~/hist//go ".toList)
  obtain ⟨path, found, under⟩ := relative (by decide) "/home/dev".toList
  refine ⟨absolute (by decide) none, blank (by decide) _, tilde (by decide) _, path, found,
    under.mpr ?_⟩
  intro rest split
  have named : rest = "hist//go".toList := (List.cons.inj (List.cons.inj split).2).2.symm
  rw [named]
  decide

/-- Two slashes after a tilde lead out of the home directory. -/
theorem historyPath_of_two_slashes :
    historyPath (some "/home/dev".toList) (some "~//abs".toList) = some "/abs".toList ∧
    ¬ LiesUnder "/abs".toList "/home/dev".toList := by
  decide

end Settings
end Turnwise
