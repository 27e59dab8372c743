import SshTunnel.Bytes

/-!
# Fields of a key blob

A field is a length in four bytes and as many bytes of content. Readers give the field and
what follows it, or nothing when the bytes end too soon.
-/

namespace SshTunnel.OpenSsh

/-- A field with this content. -/
def field (content : Bytes) : Bytes := Bytes.ofNat 4 content.length ++ content

/-- A number in four bytes, and what follows. -/
def number? (bytes : Bytes) : Option (Nat × Bytes) :=
  if bytes.length < 4 then none else some (Bytes.toNat (bytes.take 4), bytes.drop 4)

/-- The content of a field, and what follows. -/
def field? (bytes : Bytes) : Option (Bytes × Bytes) :=
  (number? bytes).bind fun read =>
    if read.2.length < read.1 then none else some (read.2.take read.1, read.2.drop read.1)

/-- The contents of this many fields, and what follows. -/
def fields? : Nat → Bytes → Option (List Bytes × Bytes)
  | 0, bytes => some ([], bytes)
  | count + 1, bytes =>
      (field? bytes).bind fun first =>
        (fields? count first.2).map fun more => (first.1 :: more.1, more.2)

/-- A byte string without the zeros at its start. -/
def withoutZeros (bytes : Bytes) : Bytes := bytes.dropWhile (· = 0)

/-- The shortest content that writes the same nonnegative number: a zero stands in front of
a first byte with its top bit set, and the number zero has no bytes. -/
def shortestNumber (content : Bytes) : Bytes :=
  match withoutZeros content with
  | [] => []
  | b :: rest => if 0x80 ≤ b then 0 :: b :: rest else b :: rest

end SshTunnel.OpenSsh
