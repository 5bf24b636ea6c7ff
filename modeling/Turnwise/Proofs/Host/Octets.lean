import Turnwise.Host.Disk
import Turnwise.Proofs.Path.Components
import Turnwise.Proofs.Text.Utf8

/-!
# Paths as octets

The disk is given paths as the octets of their encoding.  A slash is an octet of no other
character, so the octets divide at slashes as the text does, and whether a path begins at the
root can be read from either.
-/

namespace Turnwise
namespace Host
namespace Octets

@[simp] theorem ofText_nil : ofText [] = [] := rfl

@[simp] theorem ofText_append (first second : Text) :
    ofText (first ++ second) = ofText first ++ ofText second := by
  rw [ofText, Utf8.encode_append, ofBytes, List.map_append]
  rfl

theorem ofText_prefix_ofText
    {first text : Text}
    (beginning : first <+: text) :
    ofText first <+: ofText text :=
  (Utf8.encode_prefix_encode beginning).map _

theorem ofText_infix_ofText
    {part text : Text}
    (inside : part <:+: text) :
    ofText part <:+: ofText text := by
  obtain ⟨first, last, rfl⟩ := inside
  rw [ofText_append, ofText_append]
  exact List.infix_append _ _ _

theorem ofText_eq_nil_iff
    {text : Text} :
    ofText text = [] ↔ text = [] := by
  cases text with
  | nil => exact iff_of_true rfl rfl
  | cons c rest =>
      refine iff_of_false ?_ (List.cons_ne_nil c rest)
      rw [ofText, ofBytes, List.map_eq_nil_iff, Utf8.encode, List.flatMap_cons]
      exact List.append_ne_nil_of_left_ne_nil (Utf8.encodeChar_ne_nil c) _

/-- A slash among the octets is a slash of the text. -/
theorem slash_mem_of_mem_ofText
    {text : Text}
    (present : '/' ∈ ofText text) :
    '/' ∈ text := by
  obtain ⟨byte, inside, slash⟩ := List.mem_map.mp present
  obtain ⟨c, member, encoded⟩ := List.mem_flatMap.mp inside
  have small : byte.toNat < 0x100 := byte.toNat_lt
  have number : byte.toNat = '/'.toNat := by
    rw [← slash, Utf8.toNat_ofNat (.inl (by omega))]
  have same := Utf8.toNat_eq_of_mem_encodeChar encoded (number ▸ by decide)
  rw [number] at same
  exact Char.toNat_inj.mp same ▸ member

/-- Octets of texts with slashes between them. -/
theorem ofText_joinWith (parts : List Text) :
    ofText (Text.joinWith ['/'] parts) = Text.joinWith ['/'] (parts.map ofText) := by
  induction parts with
  | nil => rfl
  | cons first rest inductionHypothesis =>
      cases rest with
      | nil => rw [Path.joinWith_singleton, List.map_singleton, Path.joinWith_singleton]
      | cons second rest =>
          rw [Path.joinWith_cons_cons, ofText_append, ← List.singleton_append, ofText_append,
            inductionHypothesis]
          simp only [List.map_cons, Path.joinWith_cons_cons]
          rfl

/-- The octets divide at slashes as the text does. -/
theorem splitOn_ofText (text : Text) :
    (ofText text).splitOn '/' = (text.splitOn '/').map ofText := by
  conv => lhs; rw [← Path.joinWith_splitOn_slash text, ofText_joinWith]
  refine List.splitOn_intercalate '/' ?_ (mt List.map_eq_nil_iff.mp (List.splitOn_ne_nil '/' text))
  intro part present slash
  obtain ⟨segment, member, rfl⟩ := List.mem_map.mp present
  exact Text.not_mem_of_mem_splitOn member (slash_mem_of_mem_ofText slash)

end Octets

namespace Disk

/-- The segments of a path on a disk are those of the text, without the empty ones. -/
theorem segments_ofText (path : Path) :
    segments (Octets.ofText path) =
      ((path.splitOn '/').filter (!·.isEmpty)).map Octets.ofText := by
  rw [segments, Octets.splitOn_ofText, List.filter_map]
  congr 2
  funext segment
  rw [Function.comp_apply, Bool.not_inj_iff, Bool.eq_iff_iff, List.isEmpty_iff, List.isEmpty_iff,
    Octets.ofText_eq_nil_iff]

/-- A path begins at the root of a disk when its text does. -/
theorem isAbsolute_ofText (path : Path) :
    isAbsolute (Octets.ofText path) = Path.isAbsolute path := by
  rw [Bool.eq_iff_iff, Path.isAbsolute_iff, isAbsolute, beq_iff_eq]
  cases path with
  | nil => simp
  | cons c rest =>
      rw [← List.singleton_append, Octets.ofText_append, List.head?_append_of_ne_nil _
        (mt Octets.ofText_eq_nil_iff.mp (List.cons_ne_nil c []))]
      constructor
      · intro first
        have slash := Octets.slash_mem_of_mem_ofText (List.mem_of_mem_head? first)
        rw [List.mem_singleton.mp slash]
        rfl
      · intro first
        cases first
        rfl

end Disk
end Host
end Turnwise
