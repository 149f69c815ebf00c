import Mathlib

/-! SHA-256 (FIPS 180-4) on lists of bytes, with 32-bit words as natural numbers, and the lower-case
hexadecimal text of a digest. -/

namespace RustyCrew.Library.Sha256

/-- `f n`, with `n` brought to a numeral first. Without this an evaluation by name would carry the
unevaluated words of all earlier rounds. -/
def eager {α : Type} (n : Nat) (f : Nat → α) : α :=
  match n with
  | 0 => f 0
  | k + 1 => f (k + 1)

def add (x y : Nat) : Nat := (x + y) % 2 ^ 32

def rotr (n x : Nat) : Nat := (x >>> n) ||| (x <<< (32 - n)) % 2 ^ 32

def choose (x y z : Nat) : Nat := (x &&& y) ^^^ ((2 ^ 32 - 1 ^^^ x) &&& z)

def majority (x y z : Nat) : Nat := (x &&& y) ^^^ (x &&& z) ^^^ (y &&& z)

def bigSigma0 (x : Nat) : Nat := rotr 2 x ^^^ rotr 13 x ^^^ rotr 22 x

def bigSigma1 (x : Nat) : Nat := rotr 6 x ^^^ rotr 11 x ^^^ rotr 25 x

def smallSigma0 (x : Nat) : Nat := rotr 7 x ^^^ rotr 18 x ^^^ (x >>> 3)

def smallSigma1 (x : Nat) : Nat := rotr 17 x ^^^ rotr 19 x ^^^ (x >>> 10)

def roundConstants : List Nat :=
  [0x428a2f98, 0x71374491, 0xb5c0fbcf, 0xe9b5dba5, 0x3956c25b, 0x59f111f1, 0x923f82a4, 0xab1c5ed5,
   0xd807aa98, 0x12835b01, 0x243185be, 0x550c7dc3, 0x72be5d74, 0x80deb1fe, 0x9bdc06a7, 0xc19bf174,
   0xe49b69c1, 0xefbe4786, 0x0fc19dc6, 0x240ca1cc, 0x2de92c6f, 0x4a7484aa, 0x5cb0a9dc, 0x76f988da,
   0x983e5152, 0xa831c66d, 0xb00327c8, 0xbf597fc7, 0xc6e00bf3, 0xd5a79147, 0x06ca6351, 0x14292967,
   0x27b70a85, 0x2e1b2138, 0x4d2c6dfc, 0x53380d13, 0x650a7354, 0x766a0abb, 0x81c2c92e, 0x92722c85,
   0xa2bfe8a1, 0xa81a664b, 0xc24b8b70, 0xc76c51a3, 0xd192e819, 0xd6990624, 0xf40e3585, 0x106aa070,
   0x19a4c116, 0x1e376c08, 0x2748774c, 0x34b0bcb5, 0x391c0cb3, 0x4ed8aa4a, 0x5b9cca4f, 0x682e6ff3,
   0x748f82ee, 0x78a5636f, 0x84c87814, 0x8cc70208, 0x90befffa, 0xa4506ceb, 0xbef9a3f7, 0xc67178f2]

structure Working where
  (a b c d e f g h : Nat)

def initial : Working :=
  ⟨0x6a09e667, 0xbb67ae85, 0x3c6ef372, 0xa54ff53a, 0x510e527f, 0x9b05688c, 0x1f83d9ab, 0x5be0cd19⟩

/-- The rounds of one block. `window` holds the next sixteen words of the message schedule: each
round uses its first word and appends the word sixteen places on. -/
def rounds : List Nat → List Nat → Working → Working
  | [], _, s => s
  | _ :: _, [], s => s
  | k :: constants, word :: window, ⟨a, b, c, d, e, f, g, h⟩ =>
    eager (add (add (add h (bigSigma1 e)) (add (choose e f g) k)) word) fun t1 =>
    eager (add t1 (add (bigSigma0 a) (majority a b c))) fun a' =>
    eager (add d t1) fun e' =>
    eager (add (add (smallSigma1 (window.getD 13 0)) (window.getD 8 0))
      (add (smallSigma0 (window.getD 0 0)) word)) fun next =>
    rounds constants (window ++ [next]) ⟨a', a, b, c, e', e, f, g⟩

def compress (s : Working) (block : List Nat) : Working :=
  match rounds roundConstants block s with
  | ⟨a, b, c, d, e, f, g, h⟩ =>
    eager (add s.a a) fun a => eager (add s.b b) fun b =>
    eager (add s.c c) fun c => eager (add s.d d) fun d =>
    eager (add s.e e) fun e => eager (add s.f f) fun f =>
    eager (add s.g g) fun g => eager (add s.h h) fun h => ⟨a, b, c, d, e, f, g, h⟩

def bigEndian : Nat → Nat → List Nat
  | 0, _ => []
  | count + 1, n => (n >>> (8 * count)) % 256 :: bigEndian count n

def pad (message : List UInt8) : List Nat :=
  message.map UInt8.toNat ++ 0x80 ::
    (List.replicate ((119 - message.length % 64) % 64) 0 ++ bigEndian 8 (8 * message.length))

def words : List Nat → List Nat
  | b0 :: b1 :: b2 :: b3 :: rest =>
    eager (b0 * 2 ^ 24 + b1 * 2 ^ 16 + b2 * 2 ^ 8 + b3) fun word => word :: words rest
  | _ => []

def blocks : List Nat → Working → Working
  | w0 :: w1 :: w2 :: w3 :: w4 :: w5 :: w6 :: w7 :: w8 :: w9 :: w10 :: w11 :: w12 :: w13 :: w14 ::
      w15 :: rest, s =>
      blocks rest
        (compress s [w0, w1, w2, w3, w4, w5, w6, w7, w8, w9, w10, w11, w12, w13, w14, w15])
  | _, s => s

def digest (message : List UInt8) : List Nat :=
  match blocks (words (pad message)) initial with
  | ⟨a, b, c, d, e, f, g, h⟩ => [a, b, c, d, e, f, g, h].flatMap (bigEndian 4)

def hexDigit (n : Nat) : Char := "0123456789abcdef".toList.getD n '0'

def hex (bytes : List Nat) : List Char :=
  bytes.flatMap fun byte => [hexDigit (byte / 16), hexDigit (byte % 16)]

def sha256Hex (message : List UInt8) : String := String.ofList (hex (digest message))

example : sha256Hex [] = "e3b0c44298fc1c149afbf4c8996fb92427ae41e4649b934ca495991b7852b855" := by
  decide +kernel

example : sha256Hex "abc".toUTF8.data.toList =
    "ba7816bf8f01cfea414140de5dae2223b00361a396177a9cb410ff61f20015ad" := by
  decide +kernel

theorem length_bigEndian (count n : Nat) : (bigEndian count n).length = count := by
  induction count with
  | zero => rfl
  | succ count ih => rw [bigEndian, List.length_cons, ih]

theorem length_digest (message : List UInt8) : (digest message).length = 32 := by
  simp [digest, length_bigEndian]

theorem length_hex (bytes : List Nat) : (hex bytes).length = 2 * bytes.length := by
  induction bytes with
  | nil => rfl
  | cons byte rest ih =>
    have unfolded : hex (byte :: rest) =
      hexDigit (byte / 16) :: hexDigit (byte % 16) :: hex rest := rfl
    rw [unfolded, List.length_cons, List.length_cons, ih, List.length_cons]
    omega

theorem hexDigit_ne_colon (n : Nat) : hexDigit n ≠ ':' := by
  by_cases small : n < 16
  · interval_cases n <;> decide
  · have past : "0123456789abcdef".toList.length ≤ n := by
      show 16 ≤ n
      omega
    rw [hexDigit, List.getD_eq_default _ _ past]
    decide

theorem colon_not_mem_hex (bytes : List Nat) : ':' ∉ hex bytes := by
  intro member
  obtain ⟨byte, -, digit⟩ := List.mem_flatMap.mp member
  simp only [List.mem_cons, List.not_mem_nil, or_false] at digit
  rcases digit with high | low
  · exact hexDigit_ne_colon _ high.symm
  · exact hexDigit_ne_colon _ low.symm

theorem length_sha256Hex (message : List UInt8) : (sha256Hex message).toList.length = 64 := by
  rw [sha256Hex, String.toList_ofList, length_hex, length_digest]

theorem colon_not_mem_sha256Hex (message : List UInt8) : ':' ∉ (sha256Hex message).toList := by
  rw [sha256Hex, String.toList_ofList]
  exact colon_not_mem_hex _

end RustyCrew.Library.Sha256
