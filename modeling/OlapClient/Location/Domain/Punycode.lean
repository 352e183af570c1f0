import OlapClient.Text.Blank

namespace OlapClient.Location.Domain.Punycode

/-!
# Punycode

Text is written in ASCII by its own ASCII characters, a hyphen, and numbers that say which other
characters are inserted where.

* `decode?` — the text that is written so.
* `length_lt_of_number?_eq_some` — reading a number uses up a digit, which ends the reading.
-/

/-- The value of a digit; letters come before numerals. -/
def digit? (c : Char) : Option Nat :=
  if isAsciiLetter c then some ((lowerAscii c).toNat - 'a'.toNat)
  else if isDigit c then some (26 + (c.toNat - '0'.toNat))
  else none

/-- The least digit at a place that does not end a number there. Places count in steps of 36. -/
def threshold (bias place : Nat) : Nat :=
  if place ≤ bias then 1 else if bias + 26 ≤ place then 26 else place - bias

/-- Numbers stay below this bound. -/
def bound : Nat := 4294967296

/-- A number, added to what it starts from, and what follows it. Digits of lower weight come
first. -/
def number? (bias place weight sum : Nat) : List Char → Option (Nat × List Char)
  | [] => none
  | c :: rest =>
    match digit? c with
    | none => none
    | some d =>
      let t := threshold bias place
      if bound ≤ sum + d * weight then none
      else if d < t then some (sum + d * weight, rest)
      else if bound ≤ weight * (36 - t) then none
      else number? bias (place + 36) (weight * (36 - t)) (sum + d * weight) rest

theorem length_lt_of_number?_eq_some {bias place weight sum : Nat} {cs : List Char}
    {r : Nat × List Char} (h : number? bias place weight sum cs = some r) :
    r.2.length < cs.length := by
  induction cs generalizing place weight sum with
  | nil => simp [number?] at h
  | cons c rest ih =>
    rw [number?] at h
    split at h
    · simp at h
    · dsimp only at h
      split at h
      · simp at h
      · split at h
        · simp only [Option.some.injEq] at h
          simp [← h]
        · split at h
          · simp at h
          · have := ih h
            simp only [List.length_cons]
            omega

/-- The bias that follows a number that is scaled already. -/
def scaledBias (place delta : Nat) : Nat :=
  if 455 < delta then scaledBias (place + 36) (delta / 35)
  else place + 36 * delta / (delta + 38)
termination_by delta
decreasing_by omega

/-- The bias that follows a number, for a text that has become so long. -/
def adapted (delta length : Nat) (first : Bool) : Nat :=
  let scaled := if first then delta / 700 else delta / 2
  scaledBias 0 (scaled + scaled / length)

/-- A text with a character put in at a place. -/
def insertAt (text : List Char) (i : Nat) (c : Char) : List Char :=
  text.take i ++ c :: text.drop i

/-- Insert the characters that digits describe. Each number leads from the last code point and
place to the next ones. -/
def insertAll (text : List Char) (code bias place : Nat) (digits : List Char) :
    Option (List Char) :=
  if digits = [] then some text
  else
    match h : number? bias 36 1 place digits with
    | none => none
    | some (reached, rest) =>
      let length := text.length + 1
      let code' := code + reached / length
      if code'.isValidChar then
        insertAll (insertAt text (reached % length) (Char.ofNat code')) code'
          (adapted (reached - place) length (place == 0)) (reached % length + 1) rest
      else none
termination_by digits.length
decreasing_by exact length_lt_of_number?_eq_some h

/-- The text that is written in ASCII. Its own ASCII characters come before the last hyphen, in
lower case. -/
def decode? (cs : List Char) : Option (List Char) :=
  let digits := (cs.reverse.takeWhile (· != '-')).reverse
  let own := cs.take (cs.length - digits.length)
  if own = ['-'] then none
  else insertAll (own.dropLast.map lowerAscii) 128 72 0 digits

end OlapClient.Location.Domain.Punycode
