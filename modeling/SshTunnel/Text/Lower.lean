import SshTunnel.Text.LowerTable

/-!
# Lower case

Full lower case of a text: every character by its own mapping, a dotted capital I as two
characters, and a capital sigma by its place in the word.
-/

namespace SshTunnel.Text

/-- A code point inside one of the ranges. -/
def inRanges (ranges : List (Nat × Nat)) (n : Nat) : Bool :=
  ranges.any fun r => r.1 ≤ n && n ≤ r.2

/-- A mark that case detection passes over. -/
def isCaseIgnorable (c : Char) : Bool := inRanges caseIgnorableRanges c.toNat

/-- A letter with case. -/
def isCased (c : Char) : Bool := inRanges casedRanges c.toNat

/-- The lower case of one character on its own; a capital sigma becomes the usual small one. -/
def lowerChar (c : Char) : Text :=
  let n := c.toNat
  if n < 0x80 then [if 0x41 ≤ n && n ≤ 0x5a then Char.ofNat (n + 0x20) else c]
  else if n = 0x130 then ['i', Char.ofNat 0x307]
  else
    match caseRuns.find? (·.covers n) with
    | some run => [Char.ofNat (n + run.shift).toNat]
    | none => [c]

/-- The next character that case detection does not pass over is a letter with case. -/
def meetsCased (t : Text) : Bool :=
  match t.dropWhile isCaseIgnorable with
  | [] => false
  | c :: _ => isCased c

/-- Lower case of a text, given the reversed text before it. A capital sigma is written as
a final one when a letter with case comes before it and none after it. -/
def lowerAfter (before : Text) : Text → Text
  | [] => []
  | c :: rest =>
      (if c = 'Σ' then
        [if meetsCased before && !meetsCased rest then 'ς' else 'σ']
      else lowerChar c) ++ lowerAfter (c :: before) rest

/-- The text in lower case. -/
def lower (t : Text) : Text := lowerAfter [] t

end SshTunnel.Text
