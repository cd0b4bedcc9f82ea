/-!
# Comparing names without regard to letter case

Category tokens and level names are accepted in any letter case. Only the 26 letters of ASCII
have a case here: a letter outside that range equals itself and nothing else, so no other
alphabet can spell one of our names.
-/

namespace StatusCodes.Text

/-- The characters of a name, with ASCII capitals made small. -/
def folded (s : String) : List Char :=
  s.toList.map Char.toLower

/-- Whether two names are the same up to the case of ASCII letters. -/
def sameLetters (a b : String) : Bool :=
  folded a == folded b

theorem sameLetters_iff {a b : String} : sameLetters a b = true ↔ folded a = folded b := by
  simp [sameLetters]

theorem sameLetters_refl (a : String) : sameLetters a a = true := by
  simp [sameLetters]

/-- What is left of a text after a given start, if the text begins with it. -/
def afterStart? : List Char → List Char → Option (List Char)
  | [], text => some text
  | _ :: _, [] => none
  | s :: start, c :: text => if s = c then afterStart? start text else none

theorem afterStart?_eq_some_iff {start text rest : List Char} :
    afterStart? start text = some rest ↔ text = start ++ rest := by
  induction start generalizing text with
  | nil => simp [afterStart?]
  | cons s start ih =>
      cases text with
      | nil => simp [afterStart?]
      | cons c text =>
          by_cases h : s = c
          · simp [afterStart?, h, ih]
          · simp [afterStart?, h, Ne.symm h]

end StatusCodes.Text
