import SpokenEditor.Toml.Digits

/-!
# Dates and times of a settings file

A date is `1979-05-27`, a time `07:32` with seconds and their fraction after it if wanted. Both
together are joined by a `T` or a space and may have an offset, `Z` or `+01:00`. No setting is a
date, so that reading one only decides whether it is one.
-/

namespace SpokenEditor.Toml

/-- The number that so many decimal digits at the start spell, and what follows them. -/
def digits? (n : Nat) (t : Text) : Option (Nat × Text) :=
  if t.length < n then none else (ofDigits? 10 (t.take n)).map (·, t.drop n)

/-- A number of two digits in a range, and what follows it. -/
def pair? (low high : Nat) (t : Text) : Option Text :=
  match digits? 2 t with
  | some (n, rest) => if low ≤ n ∧ n ≤ high then some rest else none
  | none => none

/-- What follows the character, if the text begins with it. -/
def after? (c : Char) : Text → Option Text
  | d :: t => if d = c then some t else none
  | [] => none

/-- How many days the month has. -/
def daysIn (year month : Nat) : Nat :=
  if month = 2 then
    if year % 4 = 0 ∧ (year % 100 ≠ 0 ∨ year % 400 = 0) then 29 else 28
  else if month = 4 ∨ month = 6 ∨ month = 9 ∨ month = 11 then 30
  else 31

/-- What follows the date at the start of the text. -/
def date? (t : Text) : Option Text :=
  (digits? 4 t).bind fun (year, t) =>
    (after? '-' t).bind fun t =>
      (digits? 2 t).bind fun (month, t) =>
        if 1 ≤ month ∧ month ≤ 12 then (after? '-' t).bind (pair? 1 (daysIn year month)) else none

/-- What follows the fraction of a second at the start of the text, if there is one. -/
def secondFraction? : Text → Option Text
  | '.' :: t =>
    if (t.takeWhile Char.isDigit).isEmpty then none else some (t.dropWhile Char.isDigit)
  | t => some t

/-- What follows the time of day at the start of the text; its seconds may be missing, and may
count a leap second. -/
def timeOfDay? (t : Text) : Option Text :=
  (pair? 0 23 t).bind fun t =>
    (after? ':' t).bind fun t =>
      (pair? 0 59 t).bind fun t =>
        match t with
        | ':' :: t => (pair? 0 60 t).bind secondFraction?
        | t => some t

/-- Whether the text is an offset, or nothing. -/
def isOffset : Text → Bool
  | [] => true
  | ['Z'] | ['z'] => true
  | c :: t =>
    (c == '+' || c == '-')
      && ((pair? 0 23 t).bind fun t => (after? ':' t).bind (pair? 0 59)) == some []

/-- Whether the text is a date and nothing else. -/
def isDate (t : Text) : Bool :=
  date? t == some []

/-- Whether the text is a date, a time, or both. -/
def isMoment (t : Text) : Bool :=
  match date? t with
  | some [] => true
  | some (c :: t) =>
    (c == 'T' || c == 't' || c == ' ') &&
      match timeOfDay? t with
      | some rest => isOffset rest
      | none => false
  | none => timeOfDay? t == some []

end SpokenEditor.Toml
