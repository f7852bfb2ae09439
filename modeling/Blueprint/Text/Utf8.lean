/-!
# UTF-8

Reading text from bytes. A sequence of bytes is text if it is cut into the encodings of characters;
in a sequence that is not, every longest beginning of an encoding, or else every single byte, stands
for the replacement character.
-/

namespace Blueprint.Text

/-- Whether a byte goes on an encoding. -/
def isTail (b : UInt8) : Bool := 0x80 ≤ b && b ≤ 0xbf

/-- For a byte that starts an encoding of more than one byte: how many follow, and the bounds of the
first that follows. -/
def tailOf? (b : UInt8) : Option (Nat × UInt8 × UInt8) :=
  if 0xc2 ≤ b && b ≤ 0xdf then some (1, 0x80, 0xbf)
  else if b == 0xe0 then some (2, 0xa0, 0xbf)
  else if b == 0xed then some (2, 0x80, 0x9f)
  else if 0xe1 ≤ b && b ≤ 0xef then some (2, 0x80, 0xbf)
  else if b == 0xf0 then some (3, 0x90, 0xbf)
  else if 0xf1 ≤ b && b ≤ 0xf3 then some (3, 0x80, 0xbf)
  else if b == 0xf4 then some (3, 0x80, 0x8f)
  else none

/-- The bytes that go on the encoding that `b` starts, as far as they do, at most as many as it
wants. -/
def tailBytes (b : UInt8) (rest : List UInt8) : List UInt8 :=
  match tailOf? b, rest with
  | some (n, low, high), c :: more =>
    if low ≤ c && c ≤ high then c :: (more.take (n - 1)).takeWhile isTail else []
  | _, _ => []

/-- How many bytes should follow `b`. -/
def tailLength (b : UInt8) : Nat := (tailOf? b).elim 0 (·.1)

/-- The character that a complete encoding stands for. -/
def decodeChar (b : UInt8) (tail : List UInt8) : Char :=
  let lead := match tail.length with
    | 0 => b.toNat
    | 1 => b.toNat % 0x20
    | 2 => b.toNat % 0x10
    | _ => b.toNat % 0x08
  Char.ofNat (tail.foldl (fun n c => n * 0x40 + c.toNat % 0x40) lead)

/-- Whether `b` and the bytes found after it are a complete encoding. -/
def completes (b : UInt8) (tail : List UInt8) : Bool :=
  b < 0x80 || ((tailOf? b).isSome && tail.length == tailLength b)

/-- Reads at most `fuel` encodings. `none` stands for a faulty place. -/
def decodeSteps : Nat → List UInt8 → List (Option Char)
  | 0, _ | _, [] => []
  | fuel + 1, b :: rest =>
    let tail := tailBytes b rest
    (if completes b tail then some (decodeChar b tail) else none) ::
      decodeSteps fuel (rest.drop tail.length)

/-- The characters that bytes stand for, `none` at each faulty place. -/
def decode (bytes : List UInt8) : List (Option Char) := decodeSteps bytes.length bytes

/-- The text that bytes stand for, with a replacement character at each faulty place. -/
def decodeLossy (bytes : List UInt8) : String :=
  String.ofList ((decode bytes).map (·.getD '\ufffd'))

/-- The text that bytes stand for, if no place in them is faulty. -/
def decode? (bytes : List UInt8) : Option String :=
  if (decode bytes).all Option.isSome then some (decodeLossy bytes) else none

end Blueprint.Text
