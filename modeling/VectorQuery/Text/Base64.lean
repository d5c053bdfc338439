/-! Bytes written in base 64. Characters outside the alphabet are passed over. -/
namespace VectorQuery.Text

/-- The value of a character of the alphabet. -/
def base64Digit? (c : Char) : Option Nat :=
  if 'A' ≤ c ∧ c ≤ 'Z' then some (c.toNat - 65)
  else if 'a' ≤ c ∧ c ≤ 'z' then some (c.toNat - 71)
  else if '0' ≤ c ∧ c ≤ '9' then some (c.toNat + 4)
  else if c = '+' then some 62
  else if c = '/' then some 63
  else none

/-- The bytes of a text after `count` characters of a group of four, of which `bits` are not in a byte
yet. Equals signs that fill up a group end the text; a group that is begun and not filled up is
refused. -/
def base64From? (count pads bits : Nat) : List Char → Option (List UInt8)
  | [] => if count = 0 then some [] else none
  | c :: r =>
    if c = '=' then
      if 2 ≤ count ∧ 4 ≤ count + pads + 1 then some []
      else base64From? count (if 2 ≤ count then pads + 1 else pads) bits r
    else match base64Digit? c with
      | none => base64From? count pads bits r
      | some v =>
        if count = 0 then base64From? 1 0 v r
        else if count = 1 then
          (base64From? 2 0 (v % 16) r).map (UInt8.ofNat (bits * 4 + v / 16) :: ·)
        else if count = 2 then
          (base64From? 3 0 (v % 4) r).map (UInt8.ofNat (bits * 16 + v / 4) :: ·)
        else (base64From? 0 0 0 r).map (UInt8.ofNat (bits * 64 + v) :: ·)

/-- The bytes of a text in base 64. -/
def base64? (s : List Char) : Option (List UInt8) := base64From? 0 0 0 s

example : base64? "aGk=\n".toList = some [0x68, 0x69] := by decide

end VectorQuery.Text
