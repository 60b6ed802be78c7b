import Mathlib.Algebra.Ring.Int.Defs
import Mathlib.Algebra.Ring.Nat
import Mathlib.Tactic.Common

/-!
# JSON values and their texts

Values over any numbers, their texts as `JSON.stringify` writes them and as `JSON.parse` reads them.
The texts of numbers are a parameter, `NumberFormat`.

`parse_stringify`: the text of a value is read back as the value.  The reading of a value never
looks at what follows it (`parseValue_stringify`), from which the rest follows by induction on the
value.
-/

/-- A JSON value; the members of an object are in the order they were added. -/
inductive Json (ν : Type) where
  | null
  | bool (value : Bool)
  | number (value : ν)
  | string (value : String)
  | array (items : List (Json ν))
  | object (members : List (String × Json ν))

namespace Json

/-- The characters that can stand in a number. -/
def numberChars : List Char :=
  ['-', '+', '.', 'e', 'E', '0', '1', '2', '3', '4', '5', '6', '7', '8', '9']

def isNumberChar (c : Char) : Bool := c ∈ numberChars

/-- Numbers with their texts; the natural numbers are among them. -/
structure NumberFormat (ν : Type) where
  print : ν → List Char
  parse : List Char → Option ν
  ofNat : Nat → ν
  toNat? : ν → Option Nat
  print_ne_nil : ∀ n, print n ≠ []
  isNumberChar_of_mem : ∀ n, ∀ c ∈ print n, isNumberChar c
  parse_print : ∀ n, parse (print n) = some n
  toNat?_ofNat : ∀ n, toNat? (ofNat n) = some n

variable {c : Char}

theorem isNumberChar_of_isDigit (h : c.isDigit = true) : isNumberChar c = true := by
  have hall : ∀ n < 58, 48 ≤ n → isNumberChar (Char.ofNat n) = true := by decide
  have hbounds : 48 ≤ c.toNat ∧ c.toNat ≤ 57 := Char.isDigit_iff_toNat.mp h
  have hc := hall c.toNat (by omega) (by omega)
  rwa [Char.ofNat_toNat] at hc

/-- The natural numbers in decimal digits. -/
def natFormat : NumberFormat Nat where
  print n := Nat.toDigits 10 n
  parse text := some (Nat.ofDigitChars 10 text 0)
  ofNat n := n
  toNat? n := some n
  print_ne_nil _ := Nat.toDigits_ne_nil
  isNumberChar_of_mem _ _ hc :=
    isNumberChar_of_isDigit (Nat.isDigit_of_mem_toDigits (by decide) (by decide) hc)
  parse_print _ := congrArg some Nat.ofDigitChars_ten_toDigits
  toNat?_ofNat _ := rfl

variable {ν : Type}

theorem induction {P : Json ν → Prop} (null : P .null) (bool : ∀ value, P (.bool value))
    (number : ∀ value, P (.number value)) (string : ∀ value, P (.string value))
    (array : ∀ items, (∀ item ∈ items, P item) → P (.array items))
    (object : ∀ members, (∀ member ∈ members, P member.2) → P (.object members))
    (value : Json ν) : P value := by
  refine @Json.rec ν P (fun items => ∀ item ∈ items, P item)
    (fun members => ∀ member ∈ members, P member.2) (fun member => P member.2) null bool number
    string array object ?_ ?_ ?_ ?_ ?_ value
  · intro item hitem
    cases hitem
  · intro head rest hhead hrest
    exact List.forall_mem_cons.mpr ⟨hhead, hrest⟩
  · intro member hmember
    cases hmember
  · intro head rest hhead hrest
    exact List.forall_mem_cons.mpr ⟨hhead, hrest⟩
  · intro key value hvalue
    exact hvalue

/-! ### Objects -/

variable {members : List (String × Json ν)}

def keys (members : List (String × Json ν)) : List String := members.map (·.1)

def member? (members : List (String × Json ν)) (key : String) : Option (Json ν) :=
  members.lookup key

theorem member?_nil (key : String) : member? ([] : List (String × Json ν)) key = none := rfl

theorem member?_cons (first : String) (value : Json ν) (rest : List (String × Json ν))
    (key : String) :
    member? ((first, value) :: rest) key = if key =
      first then some value else member? rest key := by
  unfold member?
  by_cases h : key = first
  · rw [if_pos h, h, List.lookup_cons_self]
  · have hbeq : (key == first) = false := beq_eq_false_iff_ne.mpr h
    rw [if_neg h, List.lookup_cons, hbeq]

/-- The member takes the place of one with its key, or comes last. -/
def setMember : List (String × Json ν) → String → Json ν → List (String × Json ν)
  | [], key, value => [(key, value)]
  | member :: rest, key, value =>
    if member.1 = key then (key, value) :: rest else member :: setMember rest key value

theorem setMember_of_not_mem {key : String} (h : key ∉ keys members) (value : Json ν) :
    setMember members key value = members ++ [(key, value)] := by
  induction members with
  | nil => rfl
  | cons member rest ih =>
    have hne : ¬member.1 = key := fun heq => h (heq ▸ List.mem_cons_self)
    rw [setMember, if_neg hne, ih fun hmem => h (List.mem_cons_of_mem _ hmem)]
    rfl

/-- The object of members that are added one after the other. -/
def ofMembers (members : List (String × Json ν)) : List (String × Json ν) :=
  members.foldl (fun object member => setMember object member.1 member.2) []

theorem foldl_setMember (object members : List (String × Json ν))
    (h : (keys (object ++ members)).Nodup) :
    members.foldl (fun object member => setMember object member.1 member.2) object =
      object ++ members := by
  induction members generalizing object with
  | nil => exact (List.append_nil object).symm
  | cons member rest ih =>
    have hnew : member.1 ∉ keys object := by
      intro hmem
      rw [keys, List.map_append, List.nodup_append] at h
      exact h.2.2 _ hmem _ List.mem_cons_self rfl
    rw [List.foldl_cons, setMember_of_not_mem hnew, ih _ (by simpa [keys] using h),
      List.append_assoc]
    rfl

theorem ofMembers_of_nodup (h : (keys members).Nodup) : ofMembers members = members :=
  foldl_setMember [] members h

/-! ### Nesting and keys -/

mutual

/-- How deep values stand inside a value; the value itself stands at depth 0. -/
def nesting : Json ν → Nat
  | .array items => nestingItems items
  | .object members => nestingMembers members
  | _ => 0

def nestingItems : List (Json ν) → Nat
  | [] => 0
  | item :: rest => max (nesting item + 1) (nestingItems rest)

def nestingMembers : List (String × Json ν) → Nat
  | [] => 0
  | (_, value) :: rest => max (nesting value + 1) (nestingMembers rest)

end

variable {items : List (Json ν)}

theorem nestingItems_le {bound : Nat} :
    nestingItems items ≤ bound ↔ ∀ item ∈ items, nesting item + 1 ≤ bound := by
  induction items with
  | nil => simp [nestingItems]
  | cons item rest ih => rw [nestingItems, Nat.max_le, ih, List.forall_mem_cons]

theorem nestingMembers_le {bound : Nat} :
    nestingMembers members ≤ bound ↔ ∀ member ∈ members, nesting member.2 + 1 ≤ bound := by
  induction members with
  | nil => simp [nestingMembers]
  | cons member rest ih => rw [nestingMembers, Nat.max_le, ih, List.forall_mem_cons]

mutual

/-- No object has two members with one key. -/
def Distinct : Json ν → Prop
  | .array items => DistinctItems items
  | .object members => (keys members).Nodup ∧ DistinctMembers members
  | _ => True

def DistinctItems : List (Json ν) → Prop
  | [] => True
  | item :: rest => Distinct item ∧ DistinctItems rest

def DistinctMembers : List (String × Json ν) → Prop
  | [] => True
  | (_, value) :: rest => Distinct value ∧ DistinctMembers rest

end

theorem distinctItems_iff : DistinctItems items ↔ ∀ item ∈ items, Distinct item := by
  induction items with
  | nil => simp [DistinctItems]
  | cons item rest ih => rw [DistinctItems, ih, List.forall_mem_cons]

theorem distinctMembers_iff : DistinctMembers members ↔ ∀ member ∈ members, Distinct member.2 := by
  induction members with
  | nil => simp [DistinctMembers]
  | cons member rest ih => rw [DistinctMembers, ih, List.forall_mem_cons]

mutual

/-- The value with the members of its objects in the order of their keys. -/
def sorted : Json ν → Json ν
  | .array items => .array (sortedItems items)
  | .object members => .object ((sortedMembers members).mergeSort fun a b => a.1 ≤ b.1)
  | value => value

def sortedItems : List (Json ν) → List (Json ν)
  | [] => []
  | item :: rest => sorted item :: sortedItems rest

def sortedMembers : List (String × Json ν) → List (String × Json ν)
  | [] => []
  | (key, value) :: rest => (key, sorted value) :: sortedMembers rest

end

/-- One JSON value: the order of members does not count. -/
def Same (value other : Json ν) : Prop := value.sorted = other.sorted

theorem Same.refl (value : Json ν) : Same value value := rfl

/-! ### Writing -/

def hexDigit (digit : Nat) : Char :=
  if digit < 10 then Char.ofNat (48 + digit) else Char.ofNat (87 + digit)

def escape (c : Char) : List Char :=
  match c with
  | '"' => ['\\', '"']
  | '\\' => ['\\', '\\']
  | '\x08' => ['\\', 'b']
  | '\t' => ['\\', 't']
  | '\n' => ['\\', 'n']
  | '\x0c' => ['\\', 'f']
  | '\r' => ['\\', 'r']
  | c =>
    if c.toNat < 32 then ['\\', 'u', '0', '0', hexDigit (c.toNat / 16), hexDigit (c.toNat % 16)]
    else [c]

def quote (text : String) : List Char := '"' :: text.toList.flatMap escape ++ ['"']

mutual

def stringify (format : NumberFormat ν) : Json ν → List Char
  | .null => ['n', 'u', 'l', 'l']
  | .bool true => ['t', 'r', 'u', 'e']
  | .bool false => ['f', 'a', 'l', 's', 'e']
  | .number value => format.print value
  | .string value => quote value
  | .array [] => ['[', ']']
  | .array (item :: rest) => '[' :: stringify format item ++ stringifyItems format rest
  | .object [] => ['{', '}']
  | .object ((key, value) :: rest) =>
    '{' :: quote key ++ ':' :: stringify format value ++ stringifyMembers format rest

/-- What follows an item of an array. -/
def stringifyItems (format : NumberFormat ν) : List (Json ν) → List Char
  | [] => [']']
  | item :: rest => ',' :: stringify format item ++ stringifyItems format rest

def stringifyMembers (format : NumberFormat ν) : List (String × Json ν) → List Char
  | [] => ['}']
  | (key, value) :: rest =>
    ',' :: quote key ++ ':' :: stringify format value ++ stringifyMembers format rest

end

/-! ### Reading -/

def isSpace (c : Char) : Bool := c = ' ' ∨ c = '\t' ∨ c = '\n' ∨ c = '\r'

def skipSpace (text : List Char) : List Char := text.dropWhile isSpace

def hexValue? (c : Char) : Option Nat :=
  if '0' ≤ c ∧ c ≤ '9' then some (c.toNat - 48)
  else if 'a' ≤ c ∧ c ≤ 'f' then some (c.toNat - 87)
  else if 'A' ≤ c ∧ c ≤ 'F' then some (c.toNat - 55)
  else none

def hex4? (a b c d : Char) : Option Nat := do
  let a ← hexValue? a
  let b ← hexValue? b
  let c ← hexValue? c
  let d ← hexValue? d
  return ((a * 16 + b) * 16 + c) * 16 + d

/-- The text of code units and code points: two halves of a pair are one character, and a half alone
is none. -/
def ofUnits : List Nat → List Char
  | [] => []
  | [unit] => if 0xD800 ≤ unit ∧ unit ≤ 0xDFFF then ['\uFFFD'] else [Char.ofNat unit]
  | unit :: next :: rest =>
    if 0xD800 ≤ unit ∧ unit ≤ 0xDBFF ∧ 0xDC00 ≤ next ∧ next ≤ 0xDFFF then
      Char.ofNat (0x10000 + (unit - 0xD800) * 0x400 + (next - 0xDC00)) :: ofUnits rest
    else if 0xD800 ≤ unit ∧ unit ≤ 0xDFFF then '\uFFFD' :: ofUnits (next :: rest)
    else Char.ofNat unit :: ofUnits (next :: rest)

def simpleEscape? (c : Char) : Option Char :=
  match c with
  | '"' => some '"'
  | '\\' => some '\\'
  | '/' => some '/'
  | 'b' => some '\x08'
  | 't' => some '\t'
  | 'n' => some '\n'
  | 'f' => some '\x0c'
  | 'r' => some '\r'
  | _ => none

/-- The units of a string up to its closing quote, and the text after it. -/
def parseUnits : List Char → Option (List Nat × List Char)
  | [] => none
  | '"' :: rest => some ([], rest)
  | '\\' :: 'u' :: a :: b :: c :: d :: rest =>
    match hex4? a b c d, parseUnits rest with
    | some unit, some (units, rest) => some (unit :: units, rest)
    | _, _ => none
  | '\\' :: c :: rest =>
    match simpleEscape? c, parseUnits rest with
    | some char, some (units, rest) => some (char.toNat :: units, rest)
    | _, _ => none
  | c :: rest =>
    if c.toNat < 32 ∨ c = '\\' then none
    else (parseUnits rest).map fun (units, rest) => (c.toNat :: units, rest)

def parseString (text : List Char) : Option (String × List Char) :=
  (parseUnits text).map fun (units, rest) => (String.ofList (ofUnits units), rest)

/-- A quoted key and the colon after it. -/
def parseKey (text : List Char) : Option (String × List Char) :=
  match skipSpace text with
  | '"' :: rest =>
    match parseString rest with
    | some (key, rest) =>
      match skipSpace rest with
      | ':' :: rest => some (key, rest)
      | _ => none
    | none => none
  | _ => none

variable (format : NumberFormat ν)

def parseNumber (text : List Char) : Option (Json ν × List Char) :=
  (format.parse (text.takeWhile isNumberChar)).map fun value =>
    (.number value, text.dropWhile isNumberChar)

mutual

/-- The value at the front of a text.  Every step takes a unit of fuel and a character. -/
def parseValue : Nat → List Char → Option (Json ν × List Char)
  | 0, _ => none
  | fuel + 1, text =>
    match skipSpace text with
    | 'n' :: 'u' :: 'l' :: 'l' :: rest => some (.null, rest)
    | 't' :: 'r' :: 'u' :: 'e' :: rest => some (.bool true, rest)
    | 'f' :: 'a' :: 'l' :: 's' :: 'e' :: rest => some (.bool false, rest)
    | '"' :: rest => (parseString rest).map fun (value, rest) => (.string value, rest)
    | '[' :: rest =>
      match skipSpace rest with
      | ']' :: rest => some (.array [], rest)
      | rest => (parseItems fuel rest).map fun (items, rest) => (.array items, rest)
    | '{' :: rest =>
      match skipSpace rest with
      | '}' :: rest => some (.object [], rest)
      | rest =>
        (parseMembers fuel rest).map fun (members, rest) => (.object (ofMembers members), rest)
    | rest => parseNumber format rest

def parseItems : Nat → List Char → Option (List (Json ν) × List Char)
  | 0, _ => none
  | fuel + 1, text =>
    match parseValue fuel text with
    | none => none
    | some (item, rest) =>
      match skipSpace rest with
      | ']' :: rest => some ([item], rest)
      | ',' :: rest => (parseItems fuel rest).map fun (items, rest) => (item :: items, rest)
      | _ => none

def parseMembers : Nat → List Char → Option (List (String × Json ν) × List Char)
  | 0, _ => none
  | fuel + 1, text =>
    match parseKey text with
    | none => none
    | some (key, rest) =>
      match parseValue fuel rest with
      | none => none
      | some (value, rest) =>
        match skipSpace rest with
        | '}' :: rest => some ([(key, value)], rest)
        | ',' :: rest =>
          (parseMembers fuel rest).map fun (members, rest) => ((key, value) :: members, rest)
        | _ => none

end

/-- The value of a whole text. -/
def parse (text : List Char) : Option (Json ν) :=
  match parseValue format (text.length + 1) text with
  | some (value, rest) => if skipSpace rest = [] then some value else none
  | none => none

/-! ### What is written is read back -/

theorem toNat_char_lt (c : Char) : ¬(0xD800 ≤ c.toNat ∧ c.toNat ≤ 0xDFFF) := by
  have hvalid := c.valid
  simp only [UInt32.isValidChar, Nat.isValidChar] at hvalid
  show ¬(0xD800 ≤ c.val.toNat ∧ c.val.toNat ≤ 0xDFFF)
  omega

theorem ofUnits_map_toNat (chars : List Char) : ofUnits (chars.map Char.toNat) = chars := by
  induction chars with
  | nil => rfl
  | cons c rest ih =>
    have hc := toNat_char_lt c
    cases rest with
    | nil => simp only [List.map_cons, List.map_nil, ofUnits, if_neg hc, Char.ofNat_toNat]
    | cons next rest =>
      have hpair : ¬(0xD800 ≤ c.toNat ∧ c.toNat ≤ 0xDBFF ∧ 0xDC00 ≤ next.toNat ∧
          next.toNat ≤ 0xDFFF) := by omega
      rw [List.map_cons] at ih
      simp only [List.map_cons, ofUnits, if_neg hpair, if_neg hc, Char.ofNat_toNat, ih]

theorem hexValue?_hexDigit : ∀ digit < 16, hexValue? (hexDigit digit) = some digit := by decide

theorem hex4?_hexDigit {code : Nat} (h : code < 256) :
    hex4? '0' '0' (hexDigit (code / 16)) (hexDigit (code % 16)) = some code := by
  have hhigh := hexValue?_hexDigit (code / 16) (by omega)
  have hlow := hexValue?_hexDigit (code % 16) (by omega)
  have hzero : hexValue? '0' = some 0 := by decide
  simp only [hex4?, hzero, hhigh, hlow, Option.bind_eq_bind, Option.bind_some, Option.pure_def]
  congr 1
  omega

/-- A character that is written as it is. -/
theorem parseUnits_cons (hquote : c ≠ '"') (hslash : c ≠ '\\') (hc : ¬c.toNat < 32)
    (rest : List Char) :
    parseUnits (c :: rest) =
      (parseUnits rest).map fun (units, rest) => (c.toNat :: units, rest) := by
  rw [parseUnits.eq_def]
  split
  case h_1 heq => cases heq
  case h_2 heq => exact absurd (List.cons.inj heq).1 hquote
  case h_3 heq => exact absurd (List.cons.inj heq).1 hslash
  case h_4 heq => exact absurd (List.cons.inj heq).1 hslash
  case h_5 heq =>
    obtain ⟨rfl, rfl⟩ := List.cons.inj heq
    exact if_neg (not_or.mpr ⟨hc, hslash⟩)

theorem parseUnits_simple {char : Char} (hc : simpleEscape? c = some char) (rest : List Char) :
    parseUnits ('\\' :: c :: rest) =
      (parseUnits rest).map fun (units, rest) => (char.toNat :: units, rest) := by
  have hu : c ≠ 'u' := by
    rintro rfl
    cases hc
  rw [parseUnits.eq_def]
  split
  case h_1 heq => cases heq
  case h_2 heq => exact absurd (List.cons.inj heq).1 (by decide)
  case h_3 heq => exact absurd (List.cons.inj (List.cons.inj heq).2).1 hu
  case h_4 heq =>
    obtain ⟨rfl, rfl⟩ := List.cons.inj (List.cons.inj heq).2
    rw [hc]
    cases parseUnits rest <;> rfl
  case h_5 hnot heq =>
    obtain ⟨rfl, rfl⟩ := List.cons.inj heq
    exact (hnot _ _ rfl rfl).elim

theorem parseUnits_hex {a b d : Char} {unit : Nat} (h : hex4? a b c d = some unit)
    (rest : List Char) :
    parseUnits ('\\' :: 'u' :: a :: b :: c :: d :: rest) =
      (parseUnits rest).map fun (units, rest) => (unit :: units, rest) := by
  rw [parseUnits, h]
  cases parseUnits rest <;> rfl

theorem parseUnits_escape (c : Char) (rest : List Char) :
    parseUnits (escape c ++ rest) =
      (parseUnits rest).map fun (units, rest) => (c.toNat :: units, rest) := by
  unfold escape
  split
  case h_8 hquote hslash _ _ _ _ _ =>
    split
    · next hc => exact parseUnits_hex (hex4?_hexDigit (by omega)) rest
    · next hc => exact parseUnits_cons hquote hslash hc rest
  all_goals exact parseUnits_simple rfl rest

theorem parseUnits_quoted (chars rest : List Char) :
    parseUnits (chars.flatMap escape ++ '"' :: rest) = some (chars.map Char.toNat, rest) := by
  induction chars with
  | nil => rw [List.flatMap_nil, List.nil_append, parseUnits, List.map_nil]
  | cons c chars ih =>
    rw [List.flatMap_cons, List.append_assoc, parseUnits_escape, ih]
    rfl

/-- `parseString` comes after the opening quote. -/
theorem parseString_quoted (text : String) (rest : List Char) :
    parseString (text.toList.flatMap escape ++ '"' :: rest) = some (text, rest) := by
  simp only [parseString, parseUnits_quoted, Option.map_some, ofUnits_map_toNat,
    String.ofList_toList]

theorem skipSpace_cons (hc : isSpace c = false) (rest : List Char) :
    skipSpace (c :: rest) = c :: rest := by
  rw [skipSpace, List.dropWhile_cons, hc]
  rfl

theorem parseKey_quote (key : String) (rest : List Char) :
    parseKey (quote key ++ ':' :: rest) = some (key, rest) := by
  have hcolon : skipSpace (':' :: rest) = ':' :: rest := skipSpace_cons (by decide) rest
  simp only [parseKey, quote, List.cons_append, List.append_assoc, List.nil_append,
    skipSpace_cons (show isSpace '"' = false by decide), parseString_quoted, hcolon]

/-- A value ends where a character comes that cannot stand in a number. -/
def Ends (rest : List Char) : Prop := ∀ c ∈ rest.head?, isNumberChar c = false

theorem ends_cons (h : isNumberChar c = false) (rest : List Char) : Ends (c :: rest) := by
  intro c' hc'
  obtain rfl := Option.some.inj hc'
  exact h

theorem span_number {number rest : List Char} (hnumber : ∀ c ∈ number, isNumberChar c)
    (hrest : Ends rest) : (number ++ rest).takeWhile isNumberChar = number ∧
      (number ++ rest).dropWhile isNumberChar = rest := by
  have htail : rest.takeWhile isNumberChar = [] ∧ rest.dropWhile isNumberChar = rest := by
    cases rest with
    | nil => exact ⟨rfl, rfl⟩
    | cons c rest =>
      have hc := hrest c rfl
      constructor
      · rw [List.takeWhile_cons, hc]
        rfl
      · rw [List.dropWhile_cons, hc]
        rfl
  constructor
  · rw [List.takeWhile_append_of_pos hnumber, htail.1, List.append_nil]
  · rw [List.dropWhile_append_of_pos hnumber, htail.2]

section

variable (format : NumberFormat ν)

theorem parseNumber_print (value : ν) {rest : List Char} (hrest : Ends rest) :
    parseNumber format (format.print value ++ rest) = some (.number value, rest) := by
  obtain ⟨htake, hdrop⟩ := span_number (format.isNumberChar_of_mem value) hrest
  rw [parseNumber, htake, hdrop, format.parse_print]
  rfl

/-- Reading a value from its text and whatever follows it. -/
def ReadBack (value : Json ν) : Prop :=
  ∀ fuel rest, (stringify format value).length ≤ fuel → Ends rest →
    parseValue format fuel (stringify format value ++ rest) = some (value, rest)

theorem head_stringify (value : Json ν) :
    ∃ c chars, stringify format value = c :: chars ∧ isSpace c = false ∧ c ≠ ']' := by
  have hall : numberChars.all (fun c => !isSpace c && c ≠ ']') = true := by decide
  have hnumber : ∀ c ∈ numberChars, isSpace c = false ∧ c ≠ ']' := by
    simpa using List.all_eq_true.mp hall
  cases value with
  | null => exact ⟨_, _, rfl, by decide, by decide⟩
  | bool value => cases value <;> exact ⟨_, _, rfl, by decide, by decide⟩
  | number value =>
    obtain ⟨c, chars, hprint⟩ := List.exists_cons_of_ne_nil (format.print_ne_nil value)
    have hc := format.isNumberChar_of_mem value c (hprint ▸ List.mem_cons_self)
    exact ⟨c, chars, hprint, hnumber c (of_decide_eq_true hc)⟩
  | string value => exact ⟨_, _, rfl, by decide, by decide⟩
  | array items => cases items <;> exact ⟨_, _, rfl, by decide, by decide⟩
  | object members => rcases members with - | ⟨⟨key, value⟩, rest⟩ <;>
      exact ⟨_, _, rfl, by decide, by decide⟩

variable {format}

theorem parseItems_stringify {item : Json ν} (hitem : ReadBack format item)
    (hitems : ∀ item ∈ items, ReadBack format item) {fuel : Nat}
    (hfuel : (stringify format item ++ stringifyItems format items).length ≤ fuel)
    (rest : List Char) :
    parseItems format fuel (stringify format item ++ stringifyItems format items ++ rest) =
      some (item :: items, rest) := by
  induction items generalizing item fuel with
  | nil =>
    obtain - | fuel := fuel
    · simp [stringifyItems] at hfuel
    have hvalue := hitem fuel (']' :: rest) (by simpa [stringifyItems] using hfuel)
      (ends_cons (by decide) rest)
    simp only [parseItems, stringifyItems, List.append_assoc, List.cons_append, List.nil_append,
      hvalue, skipSpace_cons (show isSpace ']' = false by decide)]
  | cons next items ih =>
    obtain ⟨c, chars, hhead, -, -⟩ := head_stringify format item
    obtain - | fuel := fuel
    · rw [hhead] at hfuel
      simp at hfuel
    have hlength : (stringify format item).length + 1 +
        (stringify format next ++ stringifyItems format items).length ≤ fuel + 1 := by
      simpa [stringifyItems, Nat.add_assoc, Nat.add_comm, Nat.add_left_comm] using hfuel
    have hpos : 1 ≤ (stringify format item).length := by
      rw [hhead]
      exact Nat.succ_pos _
    have hvalue := hitem fuel
      (',' :: (stringify format next ++ stringifyItems format items ++ rest)) (by omega)
      (ends_cons (by decide) _)
    obtain ⟨hnext, hitems⟩ := List.forall_mem_cons.mp hitems
    have hfuel : (stringify format next ++ stringifyItems format items).length ≤ fuel := by omega
    have hrest := ih hnext hitems hfuel
    simp only [List.append_assoc] at hvalue hrest
    simp only [parseItems, stringifyItems, List.append_assoc, List.cons_append, hvalue,
      skipSpace_cons (show isSpace ',' = false by decide), hrest, Option.map_some]

variable {value : Json ν}

theorem parseMembers_stringify {key : String} (hvalue : ReadBack format value)
    (hmembers : ∀ member ∈ members, ReadBack format member.2) {fuel : Nat}
    (hfuel : (quote key ++ ':' :: stringify format value ++ stringifyMembers format
      members).length ≤ fuel)
    (rest : List Char) :
    parseMembers format fuel
      (quote key ++ ':' :: stringify format value ++ stringifyMembers format members ++ rest) =
      some ((key, value) :: members, rest) := by
  induction members generalizing key value fuel with
  | nil =>
    obtain - | fuel := fuel
    · simp [stringifyMembers] at hfuel
    have hlength : (stringify format value).length ≤ fuel := by
      simp only [stringifyMembers, List.length_append, List.length_cons, List.length_nil] at hfuel
      omega
    have hread := hvalue fuel ('}' :: rest) hlength (ends_cons (by decide) rest)
    simp only [parseMembers, stringifyMembers, List.append_assoc, List.cons_append,
      List.nil_append, parseKey_quote, hread, skipSpace_cons (show isSpace '}' = false by decide)]
  | cons next members ih =>
    obtain - | fuel := fuel
    · simp at hfuel
    obtain ⟨nextKey, nextValue⟩ := next
    simp only [stringifyMembers, List.length_append, List.length_cons] at hfuel
    have hread := hvalue fuel
      (',' :: (quote nextKey ++ ':' :: stringify format nextValue ++
        stringifyMembers format members ++ rest)) (by omega) (ends_cons (by decide) _)
    have hrestFuel : (quote nextKey ++ ':' :: stringify format nextValue ++
        stringifyMembers format members).length ≤ fuel := by
      simp only [List.length_append, List.length_cons]
      omega
    obtain ⟨hnext, hmembers⟩ := List.forall_mem_cons.mp hmembers
    have hrest := ih hnext hmembers hrestFuel
    simp only [List.append_assoc, List.cons_append] at hread hrest
    simp only [parseMembers, stringifyMembers, List.append_assoc, List.cons_append, parseKey_quote,
      hread, skipSpace_cons (show isSpace ',' = false by decide), hrest, Option.map_some]

theorem parseValue_number (value : ν) : ReadBack format (.number value) := by
  intro fuel rest hfuel hrest
  obtain ⟨c, chars, hprint⟩ := List.exists_cons_of_ne_nil (format.print_ne_nil value)
  have hc := format.isNumberChar_of_mem value c (hprint ▸ List.mem_cons_self)
  obtain ⟨d, _, hhead, hspace, -⟩ := head_stringify format (.number value)
  obtain ⟨rfl, -⟩ := List.cons.inj (hprint.symm.trans hhead)
  have hnumber := parseNumber_print format value hrest
  obtain - | fuel := fuel
  · simp [stringify, hprint] at hfuel
  rw [stringify, hprint, List.cons_append, parseValue.eq_def]
  simp only [skipSpace_cons hspace]
  rw [hprint, List.cons_append] at hnumber
  have hne : ∀ d, isNumberChar d = false → c ≠ d := by
    rintro d hd rfl
    exact absurd (hc.symm.trans hd) (by decide)
  split
  case h_7 => exact hnumber
  all_goals
    next heq => exact absurd (List.cons.inj heq).1 (hne _ (by decide))

theorem parseValue_array (h : ∀ item ∈ items, ReadBack format item) :
    ReadBack format (.array items) := by
  intro fuel rest hfuel hrest
  have hopen : ∀ rest, skipSpace ('[' :: rest) = '[' :: rest := skipSpace_cons (by decide)
  obtain - | fuel := fuel
  · cases items <;> simp [stringify] at hfuel
  cases items with
  | nil =>
    simp only [stringify, List.cons_append, List.nil_append, parseValue, hopen,
      skipSpace_cons (show isSpace ']' = false by decide)]
  | cons item items =>
    obtain ⟨hitem, hitems⟩ := List.forall_mem_cons.mp h
    have hitemsFuel : (stringify format item ++ stringifyItems format items).length ≤ fuel := by
      simpa [stringify] using hfuel
    have hread := parseItems_stringify hitem hitems hitemsFuel rest
    obtain ⟨c, chars, hhead, hspace, hclose⟩ := head_stringify format item
    have hskip : skipSpace (stringify format item ++ stringifyItems format items ++ rest) =
        stringify format item ++ stringifyItems format items ++ rest := by
      rw [hhead]
      exact skipSpace_cons hspace _
    rw [stringify, List.cons_append, List.cons_append, parseValue.eq_def]
    simp only [hopen, hskip]
    split
    · next heq =>
      rw [hhead] at heq
      exact absurd (List.cons.inj heq).1 hclose
    · rw [hread]
      rfl

theorem parseValue_object (hkeys : (keys members).Nodup)
    (h : ∀ member ∈ members, ReadBack format member.2) : ReadBack format (.object members) := by
  intro fuel rest hfuel hrest
  have hopen : ∀ rest, skipSpace ('{' :: rest) = '{' :: rest := skipSpace_cons (by decide)
  obtain - | fuel := fuel
  · rcases members with - | ⟨⟨key, value⟩, members⟩ <;> simp [stringify] at hfuel
  rcases members with - | ⟨⟨key, value⟩, members⟩
  · simp only [stringify, List.cons_append, List.nil_append, parseValue, hopen,
      skipSpace_cons (show isSpace '}' = false by decide)]
  · obtain ⟨hvalue, hmembers⟩ := List.forall_mem_cons.mp h
    have hmembersFuel : (quote key ++ ':' :: stringify format value ++
        stringifyMembers format members).length ≤ fuel := by
      simpa [stringify] using hfuel
    have hread := parseMembers_stringify hvalue hmembers hmembersFuel rest
    have hspace : skipSpace (quote key ++ ':' :: stringify format value ++
        stringifyMembers format members ++ rest) = quote key ++ ':' :: stringify format value ++
        stringifyMembers format members ++ rest :=
      skipSpace_cons (show isSpace '"' = false by decide) _
    rw [stringify, List.cons_append, List.cons_append, List.cons_append, parseValue.eq_def]
    simp only [hopen, hspace]
    split
    · next heq => exact absurd (List.cons.inj heq).1 (by decide)
    · rw [hread, Option.map_some, ofMembers_of_nodup hkeys]

/-- The reading of a value does not look at what follows it. -/
theorem parseValue_stringify (hdistinct : value.Distinct) : ReadBack format value := by
  induction value using Json.induction with
  | null =>
    intro fuel rest hfuel _
    obtain - | fuel := fuel
    · simp [stringify] at hfuel
    rfl
  | bool value =>
    intro fuel rest hfuel _
    obtain - | fuel := fuel
    · cases value <;> simp [stringify] at hfuel
    cases value <;> rfl
  | number value => exact parseValue_number value
  | string value =>
    intro fuel rest hfuel _
    obtain - | fuel := fuel
    · simp [stringify, quote] at hfuel
    simp only [stringify, quote, List.cons_append, List.append_assoc, List.nil_append, parseValue,
      skipSpace_cons (show isSpace '"' = false by decide), parseString_quoted, Option.map_some]
  | array items ih =>
    have hitems := distinctItems_iff.mp hdistinct
    exact parseValue_array fun item hitem => ih item hitem (hitems item hitem)
  | object members ih =>
    have hmembers := distinctMembers_iff.mp hdistinct.2
    exact parseValue_object hdistinct.1 fun member hmember =>
      ih member hmember (hmembers member hmember)

theorem parse_stringify (hdistinct : value.Distinct) :
    parse format (stringify format value) = some value := by
  have hread := parseValue_stringify hdistinct ((stringify format value).length + 1) []
    (Nat.le_succ _) (fun _ hc => nomatch hc)
  rw [List.append_nil] at hread
  simp only [parse, hread]
  rfl

theorem eq_of_stringify_eq {other : Json ν} (hvalue : value.Distinct) (hother : other.Distinct)
    (h : stringify format value = stringify format other) : value = other := by
  have hread : some value = some other := by
    rw [← parse_stringify hvalue, h, parse_stringify hother]
  exact Option.some.inj hread

/-! ### Texts have one line -/

/-- Nothing below the space stands in a text. -/
def Printable (text : List Char) : Prop := ∀ c ∈ text, 32 ≤ c.toNat

instance (text : List Char) : Decidable (Printable text) := List.decidableBAll _ _

theorem printable_nil : Printable [] := fun _ hc => absurd hc List.not_mem_nil

theorem printable_append {text more : List Char} :
    Printable (text ++ more) ↔ Printable text ∧ Printable more :=
  List.forall_mem_append

theorem printable_cons {text : List Char} : Printable (c :: text) ↔ 32 ≤ c.toNat ∧ Printable text :=
  List.forall_mem_cons

theorem printable_escape (c : Char) : Printable (escape c) := by
  have hdigit : ∀ digit < 16, 32 ≤ (hexDigit digit).toNat := by decide
  unfold escape
  split
  case h_8 =>
    split
    · next hc =>
      have hhigh := hdigit (c.toNat / 16) (by omega)
      have hlow := hdigit (c.toNat % 16) (by omega)
      exact printable_append.mpr ⟨(by decide : Printable ['\\', 'u', '0', '0']),
        printable_cons.mpr ⟨hhigh, printable_cons.mpr ⟨hlow, printable_nil⟩⟩⟩
    · next hc => exact printable_cons.mpr ⟨Nat.le_of_not_lt hc, printable_nil⟩
  all_goals decide

theorem printable_quote (text : String) : Printable (quote text) := by
  intro c hc
  simp only [quote, List.cons_append, List.mem_cons, List.mem_append, List.mem_flatMap,
    List.not_mem_nil, or_false] at hc
  rcases hc with rfl | ⟨source, -, hc⟩ | rfl
  · decide
  · exact printable_escape source c hc
  · decide

theorem printable_stringifyItems (h : ∀ item ∈ items, Printable (stringify format item)) :
    Printable (stringifyItems format items) := by
  induction items with
  | nil => exact (by decide : Printable [']'])
  | cons item items ih =>
    obtain ⟨hitem, hitems⟩ := List.forall_mem_cons.mp h
    exact printable_append.mpr ⟨printable_cons.mpr ⟨by decide, hitem⟩, ih hitems⟩

theorem printable_stringifyMembers (h : ∀ member ∈ members, Printable (stringify format member.2)) :
    Printable (stringifyMembers format members) := by
  induction members with
  | nil => exact (by decide : Printable ['}'])
  | cons member members ih =>
    obtain ⟨hmember, hmembers⟩ := List.forall_mem_cons.mp h
    obtain ⟨key, value⟩ := member
    have hcomma : 32 ≤ ','.toNat := by decide
    have hcolon : 32 ≤ ':'.toNat := by decide
    have hkey := printable_cons.mpr ⟨hcomma, printable_quote key⟩
    have hvalue := printable_cons.mpr ⟨hcolon, hmember⟩
    exact printable_append.mpr ⟨printable_append.mpr ⟨hkey, hvalue⟩, ih hmembers⟩

theorem printable_stringify (value : Json ν) : Printable (stringify format value) := by
  induction value using Json.induction with
  | null => exact (by decide : Printable ['n', 'u', 'l', 'l'])
  | bool value =>
    cases value
    · exact (by decide : Printable ['f', 'a', 'l', 's', 'e'])
    · exact (by decide : Printable ['t', 'r', 'u', 'e'])
  | number value =>
    have hnumber : Printable numberChars := by decide
    intro c hc
    exact hnumber c (of_decide_eq_true (format.isNumberChar_of_mem value c hc))
  | string value => exact printable_quote value
  | array items ih =>
    cases items with
    | nil => exact (by decide : Printable ['[', ']'])
    | cons item items =>
      obtain ⟨hitem, hitems⟩ := List.forall_mem_cons.mp ih
      exact printable_append.mpr
        ⟨printable_cons.mpr ⟨by decide, hitem⟩, printable_stringifyItems hitems⟩
  | object members ih =>
    rcases members with - | ⟨⟨key, value⟩, members⟩
    · exact (by decide : Printable ['{', '}'])
    · obtain ⟨hvalue, hmembers⟩ := List.forall_mem_cons.mp ih
      have hopen : 32 ≤ '{'.toNat := by decide
      have hkey := printable_cons.mpr ⟨hopen, printable_quote key⟩
      exact printable_append.mpr ⟨printable_append.mpr
        ⟨hkey, printable_cons.mpr ⟨by decide, hvalue⟩⟩, printable_stringifyMembers hmembers⟩

end

end Json
