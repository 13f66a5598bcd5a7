import Mathlib.Data.List.Basic

/-
This file reads JSON objects with one field that holds a string or null.
-/

namespace OdsPipeline.Library.Json

section Grammar

def isSpace (letter : Char) : Bool := letter ∈ [' ', '\t', '\n', '\r']

/-- A string contains any character as it is, except quotes, backslashes and control characters. -/
def isPlain (letter : Char) : Bool := letter ≠ '"' && letter ≠ '\\' && 32 ≤ letter.toNat

/-- The letter after a backslash and the character that it stands for. -/
def escapes : List (Char × Char) :=
  [('"', '"'), ('\\', '\\'), ('/', '/'), ('b', '\x08'), ('f', '\x0c'), ('n', '\n'), ('r', '\r'),
   ('t', '\t')]

def hexDigit (letter : Char) : Option Nat :=
  if letter.isDigit then some (letter.toNat - 48)
  else if 'a' ≤ letter ∧ letter ≤ 'f' then some (letter.toNat - 87)
  else if 'A' ≤ letter ∧ letter ≤ 'F' then some (letter.toNat - 55)
  else none

/-- Four hexadecimal digits are one code unit. -/
def codeUnit : List Char → Option (Nat × List Char)
  | first :: second :: third :: fourth :: rest => do
      let high := (← hexDigit first) * 16 + (← hexDigit second)
      let low := (← hexDigit third) * 16 + (← hexDigit fourth)
      return (high * 256 + low, rest)
  | _ => none

/-- A character above the first plane is a pair of code units. -/
def unicodeEscape (input : List Char) : Option (Char × List Char) :=
  match codeUnit input with
  | none => none
  | some (unit, rest) =>
      if 0xd800 ≤ unit ∧ unit < 0xdc00 then
        match rest with
        | slash :: letter :: rest =>
            match codeUnit rest with
            | none => none
            | some (low, rest) =>
                if slash = '\\' ∧ letter = 'u' ∧ 0xdc00 ≤ low ∧ low < 0xe000 then
                  some (Char.ofNat (0x10000 + (unit - 0xd800) * 0x400 + (low - 0xdc00)), rest)
                else none
        | _ => none
      else if 0xdc00 ≤ unit ∧ unit < 0xe000 then none
      else some (Char.ofNat unit, rest)

def escape : List Char → Option (Char × List Char)
  | [] => none
  | letter :: rest =>
      if letter = 'u' then unicodeEscape rest
      else (escapes.lookup letter).map fun value => (value, rest)

/-- One character of a string, plain or escaped. -/
def element : List Char → Option (Char × List Char)
  | [] => none
  | letter :: rest =>
      if letter = '\\' then escape rest
      else if isPlain letter then some (letter, rest)
      else none

/-- The rest of a string after its opening quote. -/
def stringRest : Nat → List Char → Option (List Char × List Char)
  | 0, _ => none
  | fuel + 1, input =>
      if input.head? = some '"' then some ([], input.tail)
      else match element input with
        | none => none
        | some (letter, rest) =>
            (stringRest fuel rest).map fun found => (letter :: found.1, found.2)

def skipSpaces (input : List Char) : List Char := input.dropWhile isSpace

def expect (letter : Char) (input : List Char) : Option (List Char) :=
  match skipSpaces input with
  | [] => none
  | first :: rest => if first = letter then some rest else none

/-- Each character of a string takes at least one character of the text. -/
def string (input : List Char) : Option (List Char × List Char) :=
  match expect '"' input with
  | none => none
  | some rest => stringRest rest.length rest

def stringOrNull (input : List Char) : Option (Option (List Char) × List Char) :=
  if "null".toList.isPrefixOf (skipSpaces input) then some (none, (skipSpaces input).drop 4)
  else (string input).map fun found => (some found.1, found.2)

/-- The name and the value of the only field of an object. -/
def decodeField (text : String) : Option (String × Option String) := do
  let rest ← expect '{' text.toList
  let (name, rest) ← string rest
  let rest ← expect ':' rest
  let (value, rest) ← stringOrNull rest
  let rest ← expect '}' rest
  if skipSpaces rest = [] then some (String.ofList name, value.map String.ofList) else none

end Grammar

section Rules

theorem codeUnit_length (input rest : List Char) (unit : Nat)
    (read : codeUnit input = some (unit, rest)) : rest.length < input.length := by
  unfold codeUnit at read
  split at read
  · next first second third fourth tail =>
      simp only [Option.bind_eq_bind, Option.bind_eq_some_iff, Option.pure_def, Option.some.injEq,
        Prod.mk.injEq] at read
      obtain ⟨_, -, _, -, _, -, _, -, -, rfl⟩ := read
      simp only [List.length_cons]
      omega
  · cases read

theorem unicodeEscape_length (input rest : List Char) (letter : Char)
    (read : unicodeEscape input = some (letter, rest)) : rest.length ≤ input.length := by
  unfold unicodeEscape at read
  split at read
  · cases read
  · next unit after found =>
      have once := codeUnit_length _ _ _ found
      split at read
      · split at read
        · next slash mark after' =>
            split at read
            · cases read
            · next low last again =>
                have twice := codeUnit_length _ _ _ again
                split at read
                · rw [Option.some.injEq, Prod.mk.injEq] at read
                  rw [← read.2]
                  simp only [List.length_cons] at once
                  omega
                · cases read
        · cases read
      · split at read
        · cases read
        · rw [Option.some.injEq, Prod.mk.injEq] at read
          rw [← read.2]
          omega

theorem escape_length (input rest : List Char) (letter : Char)
    (read : escape input = some (letter, rest)) : rest.length < input.length := by
  cases input with
  | nil => cases read
  | cons first tail =>
      rw [List.length_cons, Nat.lt_succ_iff]
      simp only [escape] at read
      split at read
      · exact unicodeEscape_length _ _ _ read
      · obtain ⟨value, -, same⟩ := Option.map_eq_some_iff.mp read
        cases same
        exact Nat.le_refl _

/-- An element is a plain character, or it is shorter than its text. -/
theorem element_cases (input rest : List Char) (letter : Char)
    (read : element input = some (letter, rest)) :
    (input = letter :: rest ∧ isPlain letter = true) ∨ rest.length + 2 ≤ input.length := by
  cases input with
  | nil => cases read
  | cons first tail =>
      simp only [element] at read
      split at read
      · have shorter := escape_length _ _ _ read
        right
        rw [List.length_cons]
        omega
      · split at read
        · next plain =>
            cases read
            exact .inl ⟨rfl, plain⟩
        · cases read

/-- A string is written as it is, or it is shorter than its text. -/
theorem stringRest_cases (fuel : Nat) (input value rest : List Char)
    (read : stringRest fuel input = some (value, rest)) :
    (input = value ++ '"' :: rest ∧ ∀ letter ∈ value, isPlain letter = true) ∨
      value.length + rest.length + 2 ≤ input.length := by
  induction fuel generalizing input value with
  | zero => cases read
  | succ fuel ih =>
      unfold stringRest at read
      split at read
      · next closes =>
          cases read
          obtain ⟨tail, rfl⟩ := List.head?_eq_some_iff.mp closes
          exact .inl ⟨rfl, by simp⟩
      · split at read
        · cases read
        · next letter after found =>
            obtain ⟨⟨more, last⟩, later, same⟩ := Option.map_eq_some_iff.mp read
            change (letter :: more, last) = (value, rest) at same
            rw [Prod.mk.injEq] at same
            obtain ⟨rfl, rfl⟩ := same
            rcases element_cases _ _ _ found with ⟨rfl, plain⟩ | shorter
            · rcases ih after more later with ⟨rfl, plains⟩ | longer
              · exact .inl ⟨rfl, List.forall_mem_cons.mpr ⟨plain, plains⟩⟩
              · right
                simp only [List.length_cons]
                omega
            · right
              rcases ih after more later with ⟨rfl, plains⟩ | longer
              · simp only [List.length_append, List.length_cons] at shorter ⊢
                omega
              · simp only [List.length_cons]
                omega

/-- A string of plain characters is read as it is. -/
theorem stringRest_plain (fuel : Nat) (value rest : List Char) (enough : value.length < fuel)
    (plain : ∀ letter ∈ value, isPlain letter = true) :
    stringRest fuel (value ++ '"' :: rest) = some (value, rest) := by
  induction value generalizing fuel with
  | nil =>
      cases fuel with
      | zero => cases enough
      | succ fuel => rfl
  | cons letter value ih =>
      cases fuel with
      | zero => cases enough
      | succ fuel =>
          rw [List.forall_mem_cons] at plain
          have known : letter ≠ '"' ∧ letter ≠ '\\' := by
            have parts := plain.1
            simp only [isPlain, Bool.and_eq_true, decide_eq_true_eq] at parts
            exact parts.1
          have later := ih fuel (Nat.lt_of_succ_lt_succ enough) plain.2
          simp only [List.cons_append, stringRest, List.head?_cons, Option.some.injEq, known.1,
            if_false, element, known.2, plain.1, if_true, later, Option.map_some]

/-- An object that is put together from a name and a value without any escape. -/
def concatObject (name value : String) : String :=
  "\x7b\"" ++ name ++ "\":\"" ++ value ++ "\"\x7d"

theorem toList_concatObject (name value : String) :
    (concatObject name value).toList =
      '{' :: '"' :: (name.toList ++ '"' :: ':' :: '"' :: (value.toList ++ ['"', '}'])) := by
  simp [concatObject, String.toList_append]

/-- The decoder reaches the value after a plain name. -/
theorem decodeField_concatObject (name value : String)
    (plain : ∀ letter ∈ name.toList, isPlain letter = true) :
    decodeField (concatObject name value) =
      (stringRest (value.length + 2) (value.toList ++ ['"', '}'])).bind fun found =>
        (expect '}' found.2).bind fun rest =>
          if skipSpaces rest = [] then some (name, some (String.ofList found.1)) else none := by
  have named : string ('"' :: (name.toList ++ '"' :: ':' :: '"' :: (value.toList ++ ['"', '}']))) =
      some (name.toList, ':' :: '"' :: (value.toList ++ ['"', '}'])) := by
    apply stringRest_plain _ _ _ _ plain
    simp only [List.length_append, List.length_cons]
    omega
  have valued : stringOrNull ('"' :: (value.toList ++ ['"', '}'])) =
      (stringRest (value.length + 2) (value.toList ++ ['"', '}'])).map
        fun found => (some found.1, found.2) := by
    have size : (value.toList ++ ['"', '}']).length = value.length + 2 := by
      rw [List.length_append, String.length_toList]
      rfl
    rw [← size]
    rfl
  have opened : expect '{' (concatObject name value).toList =
      some ('"' :: (name.toList ++ '"' :: ':' :: '"' :: (value.toList ++ ['"', '}']))) := by
    rw [toList_concatObject]
    rfl
  have separated : expect ':' (':' :: '"' :: (value.toList ++ ['"', '}'])) =
      some ('"' :: (value.toList ++ ['"', '}'])) := rfl
  simp only [decodeField, opened, Option.bind_eq_bind, Option.bind_some, named, separated, valued,
    Option.bind_map, String.ofList_toList]
  rfl

/-- The concatenation keeps its value exactly when no character of the value needs an escape. -/
theorem decodeField_concatObject_iff (name value : String)
    (plain : ∀ letter ∈ name.toList, isPlain letter = true) :
    decodeField (concatObject name value) = some (name, some value) ↔
      ∀ letter ∈ value.toList, isPlain letter = true := by
  rw [decodeField_concatObject name value plain]
  constructor
  · intro decoded
    obtain ⟨⟨found, rest⟩, read, decoded⟩ := Option.bind_eq_some_iff.mp decoded
    obtain ⟨last, closed, decoded⟩ := Option.bind_eq_some_iff.mp decoded
    have same : found = value.toList := by
      split at decoded
      · simp only [Option.some.injEq, Prod.mk.injEq, true_and] at decoded
        rw [← decoded, String.toList_ofList]
      · cases decoded
    have remains : 0 < rest.length := by
      cases rest with
      | nil => cases closed
      | cons first rest => exact Nat.succ_pos _
    rcases stringRest_cases _ _ _ _ read with ⟨-, plains⟩ | longer
    · rw [← same]
      exact plains
    · rw [same] at longer
      simp only [List.length_append, List.length_cons, List.length_nil] at longer
      omega
  · intro plains
    have enough : value.toList.length < value.length + 2 := by
      rw [String.length_toList]
      omega
    rw [stringRest_plain _ _ ['}'] enough plains, Option.bind_some, String.ofList_toList]
    rfl

/-- The concatenation never decodes to null. -/
theorem decodeField_concatObject_ne_null (name other value : String)
    (plain : ∀ letter ∈ name.toList, isPlain letter = true) :
    decodeField (concatObject name value) ≠ some (other, none) := by
  rw [decodeField_concatObject name value plain]
  intro decoded
  obtain ⟨found, -, decoded⟩ := Option.bind_eq_some_iff.mp decoded
  obtain ⟨last, -, decoded⟩ := Option.bind_eq_some_iff.mp decoded
  split at decoded
  · simp at decoded
  · cases decoded

end Rules

end OdsPipeline.Library.Json
