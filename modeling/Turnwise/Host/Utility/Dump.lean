import Turnwise.Host.Quantity
import Turnwise.Host.Utility.Reading

/-!
# Dumps

A dump shows octets in lines of a fixed width, each with the address of its first octet.
Every line is shown in one or more formats: as characters, or as numbers of a size whose
lowest octet comes first.  Fields of different formats that show the same octets end in the
same column, and lines that repeat the line before are left out.
-/

namespace Turnwise
namespace Host
namespace Utility
namespace Dump

/-- What octets are shown as. -/
inductive Kind where
  /-- Names of characters, by their lower seven bits. -/
  | names
  /-- Characters, escapes or octal numbers. -/
  | chars
  /-- Numbers without a sign, in a base. -/
  | naturals (base : Nat)
  /-- Numbers with a sign. -/
  | integers
  /-- Numbers with a fraction. -/
  | fractions
  deriving DecidableEq, Repr

/-- How octets are shown. -/
structure Format where
  /-- What they are shown as. -/
  kind : Kind
  /-- How many octets make a field. -/
  size : Nat
  /-- Whether the line is shown as characters too. -/
  trailer : Bool
  deriving DecidableEq, Repr

/-- The names of the characters that have one. -/
def charNames : List String :=
  ["nul", "soh", "stx", "etx", "eot", "enq", "ack", "bel", "bs", "ht", "nl", "vt", "ff", "cr",
    "so", "si", "dle", "dc1", "dc2", "dc3", "dc4", "nak", "syn", "etb", "can", "em", "sub", "esc",
    "fs", "gs", "rs", "us", "sp"]

/-- The name of a character, by its lower seven bits. -/
def charName (c : Char) : Octets :=
  let code := c.toNat % 128
  match charNames[code]? with
  | some name => name.toList
  | none => if code = 127 then "del".toList else [Char.ofNat code]

/-- A character, its escape, or its octal number. -/
def charText (c : Char) : Octets :=
  if c = '\x00' then "\\0".toList
  else if Tool.isShown c then [c]
  else if "\x07\x08\t\n\x0b\x0c\r".toList.contains c then Tool.escapedOctet c
  else Octets.octal 3 c.toNat

/-- The number that octets make up, the lowest first. -/
def natural (octets : Octets) : Nat :=
  octets.foldr (fun c value => c.toNat + 256 * value) 0

/-- The number with a sign that octets make up. -/
def integer (octets : Octets) : Int :=
  let value := natural octets
  if 2 * value < Nat.pow 256 octets.length then value
  else (value : Int) - Nat.pow 256 octets.length

/-- The number of binary digits of numbers with a fraction, and of their exponents. -/
def layout (size : Nat) : Nat × Nat :=
  if size = 4 then (24, 8) else (53, 11)

/-- The number with a fraction that octets make up. -/
def quantity (octets : Octets) : Quantity :=
  let (bits, exponentBits) := layout octets.length
  let value := natural octets
  let mantissa := value % Nat.pow 2 (bits - 1)
  let exponent := value / Nat.pow 2 (bits - 1) % Nat.pow 2 exponentBits
  let negative := Nat.pow 2 (bits - 1 + exponentBits) ≤ value
  if exponent = Nat.pow 2 exponentBits - 1 then
    if mantissa = 0 then .infinite negative else .undefined negative
  else
    let whole := if exponent = 0 then mantissa else mantissa + Nat.pow 2 (bits - 1)
    let power := (max 1 exponent : Int) - Nat.pow 2 (exponentBits - 1) - bits + 2
    let (numerator, denominator) := Quantity.scale 2 whole 1 power
    .finite negative numerator denominator

/-- The text with the fewest digits, though not fewer than a number, that reads back as the
same number; the limit bounds how many more there are. -/
def fewestDigits (bits : Nat) (numerator denominator : Nat) : (limit : Nat) → Nat → Octets
  | 0, digits => Quantity.general false digits numerator denominator
  | limit + 1, digits =>
      let text := Quantity.general false digits numerator denominator
      let found : Option Quantity := (Quantity.read? text).map fun found => found.1.round bits
      match found with
      | some (.finite _ readNumerator readDenominator) =>
          if readNumerator * denominator = numerator * readDenominator then text
          else fewestDigits bits numerator denominator limit (digits + 1)
      | _ => fewestDigits bits numerator denominator limit (digits + 1)

/-- A number with a fraction as a text. -/
def quantityText (octets : Octets) : Octets :=
  let (bits, _) := layout octets.length
  let sign (negative : Bool) : Octets := if negative then ['-'] else []
  match quantity octets with
  | .infinite negative => sign negative ++ "inf".toList
  | .undefined negative => sign negative ++ "nan".toList
  | .finite negative numerator denominator =>
      let tiny := numerator != 0 &&
        Quantity.binaryMagnitude numerator denominator < Quantity.leastExponent bits
      let least := if tiny then 1 else if bits = 24 then 6 else 15
      let most := if bits = 24 then 9 else 17
      sign negative ++ fewestDigits bits numerator denominator (most - least) least

namespace Format

/-- How many columns a field takes. -/
def width (format : Format) : Nat :=
  let choose (one two four eight : Nat) : Nat :=
    match format.size with
    | 1 => one
    | 2 => two
    | 4 => four
    | _ => eight
  match format.kind with
  | .names => 3
  | .chars => 3
  | .naturals 8 => choose 3 6 11 22
  | .naturals 16 => 2 * format.size
  | .naturals _ => choose 3 5 10 20
  | .integers => choose 4 6 11 20
  | .fractions => if format.size = 4 then 15 else 24

/-- The text of a field. -/
def field (format : Format) (octets : Octets) : Octets :=
  match format.kind with
  | .names => octets.flatMap charName
  | .chars => octets.flatMap charText
  | .naturals 10 => Text.ofNat (natural octets)
  | .naturals base => Octets.padLeft format.width '0' (Nat.toDigits base (natural octets))
  | .integers => Text.ofInt (integer octets)
  | .fractions => quantityText octets

/-- How many columns stand between the fields of a line, given the columns of the line. -/
def padding (format : Format) (lineWidth columns : Nat) : Nat :=
  columns - format.width * (lineWidth / format.size)

/-- A line of octets, of which there may be fewer than the line is wide. -/
def line (format : Format) (lineWidth columns : Nat) (octets : Octets) : Octets :=
  let count := lineWidth / format.size
  let blank := (lineWidth - octets.length) / format.size
  let padding := format.padding lineWidth columns
  let filled := Octets.padRight lineWidth '\x00' octets
  let fields := (List.range (count - blank)).flatMap fun index =>
    let after := padding * (count - index - 1) / count
    let before := padding * (count - index) / count
    Octets.padLeft (before - after + format.width) ' '
      (format.field ((filled.drop (index * format.size)).take format.size))
  if format.trailer then
    let missing := blank * format.width + padding * blank / count
    fields ++ List.replicate missing ' ' ++ "  >".toList ++
      (octets.map fun c => if Tool.isShown c then c else '.') ++ ['<']
  else fields

end Format

/-- The size that the next characters of a type stand for, and the rest. -/
def readSize (letters : List (Char × Nat)) (standard : Nat) (text : Octets) : Nat × Octets :=
  let digits := text.takeWhile Char.isDigit
  if !digits.isEmpty then (Nat.ofDigitChars 10 digits 0, text.drop digits.length)
  else
    match text with
    | c :: rest =>
        match letters.find? (·.1 == c) with
        | some (_, size) => (size, rest)
        | none => (standard, text)
    | [] => (standard, text)

/-- The formats that a text stands for; the limit bounds how many.  A fault comes with its
complaint. -/
def formats (whole : Octets) : (limit : Nat) → Octets → Except Octets (List Format)
  | 0, _ => .ok []
  | _ + 1, [] => .ok []
  | limit + 1, letter :: rest => do
      let missing (size : Nat) (sort : String) : Octets :=
        "invalid type string ".toList ++ Tool.quoted whole ++
          ";\nthis system doesn't provide a ".toList ++ Text.ofNat size ++ "-byte ".toList ++
          sort.toList ++ " type".toList
      let (kind, size, rest) ←
        match letter with
        | 'a' => pure (Kind.names, 1, rest)
        | 'c' => pure (Kind.chars, 1, rest)
        | 'f' =>
            let (size, rest) := readSize [('F', 4), ('D', 8)] 8 rest
            if size = 4 || size = 8 then pure (Kind.fractions, size, rest)
            else .error (missing size "floating point")
        | letter =>
            let kind : Option Kind :=
              match letter with
              | 'd' => some .integers
              | 'o' => some (.naturals 8)
              | 'u' => some (.naturals 10)
              | 'x' => some (.naturals 16)
              | _ => none
            match kind with
            | none =>
                .error ("invalid character '".toList ++ letter :: "' in type string ".toList ++
                  Tool.quoted whole)
            | some kind =>
                let (size, rest) :=
                  readSize [('C', 1), ('S', 2), ('I', 4), ('L', 8)] 4 rest
                if [1, 2, 4, 8].contains size then pure (kind, size, rest)
                else .error (missing size "integral")
      let (trailer, rest) : Bool × Octets :=
        match rest with
        | 'z' :: rest => (true, rest)
        | rest => (false, rest)
      return ⟨kind, size, trailer⟩ :: (← formats whole limit rest)

/-- The type that a single letter among the options stands for. -/
def typeOf? : Char → Option String
  | 'a' => some "a"
  | 'b' => some "o1"
  | 'c' => some "c"
  | 'd' => some "u2"
  | 'e' => some "fD"
  | 'f' => some "fF"
  | 'h' => some "x2"
  | 'i' => some "dI"
  | 'l' => some "dL"
  | 'o' => some "o2"
  | 's' => some "d2"
  | 'x' => some "x2"
  | _ => none

/-- How addresses are shown. -/
structure Addresses where
  /-- Their base; none stands for no addresses. -/
  base : Option Nat
  /-- How many digits they have at least. -/
  width : Nat
  deriving DecidableEq, Repr

/-- The addresses that a letter stands for. -/
def addresses? : Octets → Option Addresses
  | ['d'] => some ⟨some 10, 7⟩
  | ['o'] => some ⟨some 8, 7⟩
  | ['x'] => some ⟨some 16, 6⟩
  | ['n'] => some ⟨none, 0⟩
  | _ => none

/-- An address. -/
def Addresses.text (addresses : Addresses) (place : Nat) : Octets :=
  match addresses.base with
  | some base => Octets.padLeft addresses.width '0' (Nat.toDigits base place)
  | none => []

/-- How a dump is laid out. -/
structure Layout where
  /-- The formats. -/
  formats : List Format
  /-- How many octets a line shows. -/
  width : Nat
  /-- The addresses. -/
  addresses : Addresses
  /-- Whether repeated lines are left out. -/
  abbreviates : Bool

/-- The lines that show a block of octets. -/
def Layout.block (layout : Layout) (place : Nat) (octets : Octets) : List Octets :=
  let columns := (layout.formats.map fun format =>
    (format.width + 1) * (layout.width / format.size)).foldl max 0
  layout.formats.zipIdx.map fun (format, index) =>
    (if index = 0 then layout.addresses.text place
      else List.replicate layout.addresses.width ' ') ++
      format.line layout.width columns octets

/-- The lines that show octets from an address on; the last block and whether it was repeated
are known.  The limit bounds the number of blocks. -/
def Layout.lines (layout : Layout) :
    (limit : Nat) → (last : Option Octets) → (repeated : Bool) → (place : Nat) → Octets →
      List Octets
  | 0, _, _, _, _ => []
  | _ + 1, _, _, _, [] => []
  | limit + 1, last, repeated, place, octets =>
      let block := octets.take layout.width
      let rest := octets.drop layout.width
      let next := place + block.length
      if layout.abbreviates && last = some block && block.length = layout.width then
        (if repeated then [] else [['*']]) ++ layout.lines limit last true next rest
      else layout.block place block ++ layout.lines limit (some block) false next rest

/-- The options. -/
def grammar : Grammar :=
  ⟨[.value 'A' "address-radix", .value 't' "format", .flag 'v' "output-duplicates",
    .value 'N' "read-bytes", .value 'j' "skip-bytes", ⟨'w', "width", .optional⟩,
    .flag 'a' "", .flag 'b' "", .flag 'c' "", .flag 'd' "", .flag 'e' "", .flag 'f' "",
    .flag 'h' "", .flag 'i' "", .flag 'l' "", .flag 'o' "", .flag 's' "", .flag 'x' ""], true, 1⟩

/-- The number that is given to an option. -/
def numeral (given : List Given) (letter : Char) : Tool (Option Nat) := do
  match Given.last? given letter with
  | none => return none
  | some text =>
      match amount? text with
      | some value => return some value
      | none =>
          Tool.die 1 ("invalid -".toList ++ letter :: " argument ".toList ++ Tool.quoted text)

/-- The octets of inputs, as far as they are needed; the answer also tells whether one of
them could be opened.  In directories and devices any number of octets can be skipped. -/
def gather (skipped : Nat) (needed : Option Nat) (paths : List Octets) :
    Tool (Octets × Bool) := do
  let mut content : Octets := []
  let mut opened := false
  for path in paths do
    if !opened || needed.all (content.length < ·) then
      match ← Tool.openInput path with
      | .error code => Tool.grumble 1 (Tool.inputName path ++ ": ".toList ++ code.title)
      | .ok descriptor => do
          opened := true
          let status ← Tool.program (.statusOf descriptor)
          let form? := status.toOption.map (·.form)
          let (more, failure) ← Tool.program (.readAll descriptor)
          Tool.closeInput descriptor
          content := content ++ more
          if form? == some .directory || form? == some .device then
            content := content ++ List.replicate (skipped - content.length) '\x00'
          match failure with
          | some code => Tool.grumble 1 (Tool.inputName path ++ ": ".toList ++ code.title)
          | none => pure ()
  return (content, opened)

/-- The formats that options ask for, or the usual one. -/
def chosenFormats (given : List Given) : Tool (List Format) := do
  let mut found : List Format := []
  for option in given do
    let text : Octets :=
      if option.letter = 't' then option.value.getD []
      else ((typeOf? option.letter).map (·.toList)).getD []
    match formats text (text.length + 1) text with
    | .ok more => found := found ++ more
    | .error message => Tool.die 1 message
  return if found.isEmpty then [⟨.naturals 8, 2, false⟩] else found

end Dump

/-- Show octets as numbers or characters. -/
def od : Work := fun start => do
  let (given, operands) ← Dump.grammar.read start.arguments
  let addresses ←
    match Given.last? given 'A' with
    | none => pure ⟨some 8, 7⟩
    | some text =>
        match Dump.addresses? (text.take 1) with
        | some addresses => pure addresses
        | none =>
            Tool.die 1 ("invalid output address radix '".toList ++ text.take 1 ++
              "'; it must be one character from [doxn]".toList)
  let skipped := (← Dump.numeral given 'j').getD 0
  let count ← Dump.numeral given 'N'
  let formats ← Dump.chosenFormats given
  let unit := (formats.map (·.size)).foldl max 1
  let wanted ←
    if Given.has given 'w' then do
      let width := (← Dump.numeral given 'w').getD 32
      if width = 0 || width % unit != 0 then
        Tool.complain ("warning: invalid width ".toList ++ Text.ofNat width ++ "; using ".toList ++
          Text.ofNat unit ++ " instead".toList)
        pure unit
      else pure width
    else pure 16
  let (content, opened) ← Dump.gather skipped (count.map (· + skipped)) (Tool.inputs operands)
  if opened then
    if content.length < skipped then
      Tool.die 1 "cannot skip past end of combined input".toList
    let rest := content.drop skipped
    let shown := (count.map rest.take).getD rest
    let layout : Dump.Layout := ⟨formats, wanted, addresses, !Given.has given 'v'⟩
    for line in layout.lines (shown.length + 1) none false skipped shown do
      Tool.printLine line
    if addresses.base.isSome then
      Tool.printLine (addresses.text (skipped + shown.length))
  Tool.closeStandard (Tool.inputs operands) "standard input"

end Utility
end Host
end Turnwise
