/-
UTF-8, strictly written and liberally read.

# Encoding

A surrogate has no form, and a text with one is refused; the refusal says where
the first run of them lies. All other code points have one to four octets.

# Decoding

Decoding is lossy: every maximal ill-formed subpart becomes one replacement
character, so each text comes back from its encoding and no octet string is
refused. A subpart is maximal when it begins some well-formed sequence and the
next octet would not continue it. The first octet of a sequence says which
octets may follow it (`lead?`), and `follow` goes along as far as they do; what
is not used is decoded afresh, beginning with the octet that did not fit. For
the recursion to end it is enough that `follow` gives back no more than it was
given.
-/
import Pkcs12.Bytes
import Pkcs12.Text.Encoding

namespace Pkcs12.Utf8

-- ========================================================== encoding

/-- A continuation octet holding the six lowest bits of `n`. -/
def continuation (n : Nat) : UInt8 :=
  UInt8.ofNat (0x80 + n % 64)

/-- The octets of one code point, by the size of its number. -/
def encodePoint (c : CodePoint) : Bytes :=
  let n := c.val
  if n < 0x80 then [UInt8.ofNat n]
  else if n < 0x800 then [UInt8.ofNat (0xC0 + n / 64), continuation n]
  else if n < 0x10000 then
    [UInt8.ofNat (0xE0 + n / 4096), continuation (n / 64), continuation n]
  else
    [UInt8.ofNat (0xF0 + n / 262144), continuation (n / 4096), continuation (n / 64),
      continuation n]

/-- The octets of a text, or the first run of surrogates in it. -/
def encode (t : Text) : Except Unencodable Bytes :=
  match t.dropWhile (!·.isSurrogate) with
  | [] => .ok (t.flatMap encodePoint)
  | c :: rest =>
    let first := t.length - (rest.length + 1)
    let run := (rest.takeWhile CodePoint.isSurrogate).length
    .error ⟨.utf8, c, first, first + run⟩

-- ========================================================== decoding

/-- The values one continuation octet may take. -/
structure Window where
  low : UInt8
  high : UInt8

/-- Any continuation octet. -/
def Window.any : Window := ⟨0x80, 0xBF⟩

/-- The first octet of a sequence: the bits it brings and the windows of
the octets that have to follow. The narrow windows keep out overlong forms,
surrogates and numbers above the last code point. -/
def lead? (b : UInt8) : Option (Nat × List Window) :=
  let n := b.toNat
  if n < 0x80 then some (n, [])
  else if n < 0xC2 then none
  else if n < 0xE0 then some (n - 0xC0, [.any])
  else if n = 0xE0 then some (0, [⟨0xA0, 0xBF⟩, .any])
  else if n = 0xED then some (0xD, [⟨0x80, 0x9F⟩, .any])
  else if n < 0xF0 then some (n - 0xE0, [.any, .any])
  else if n = 0xF0 then some (0, [⟨0x90, 0xBF⟩, .any, .any])
  else if n < 0xF4 then some (n - 0xF0, [.any, .any, .any])
  else if n = 0xF4 then some (4, [⟨0x80, 0x8F⟩, .any, .any])
  else none

/-- Follows the windows as far as the octets allow: the finished number,
or nothing, and the octets not used. -/
def follow (acc : Nat) : List Window → Bytes → Option Nat × Bytes
  | [], rest => (some acc, rest)
  | _ :: _, [] => (none, [])
  | w :: ws, b :: rest =>
    if w.low ≤ b ∧ b ≤ w.high then follow (64 * acc + (b.toNat - 0x80)) ws rest
    else (none, b :: rest)

theorem length_follow_le (acc : Nat) (ws : List Window) (b : Bytes) :
    (follow acc ws b).2.length ≤ b.length := by
  induction ws generalizing acc b with
  | nil => simp [follow]
  | cons w ws ih =>
    cases b with
    | nil => simp [follow]
    | cons x rest =>
      simp only [follow]
      split
      · exact Nat.le_succ_of_le (ih _ rest)
      · simp

/-- The character that stands for an ill-formed subpart. -/
def replacement : Char := Char.ofNat 0xFFFD

/-- The characters of an octet string, ill-formed subparts replaced. -/
def decodeLossy : Bytes → List Char
  | [] => []
  | b :: rest =>
    match lead? b with
    | none => replacement :: decodeLossy rest
    | some (acc, windows) =>
      let after := follow acc windows rest
      (after.1.map Char.ofNat).getD replacement :: decodeLossy after.2
termination_by b => b.length
decreasing_by
  · simp
  · have := length_follow_le acc windows rest
    simp only [List.length_cons]
    omega

end Pkcs12.Utf8
