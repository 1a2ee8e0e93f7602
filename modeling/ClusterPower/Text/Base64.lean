import ClusterPower.Text.Utf8

/-!
Bytes in base 64, written with padding. Reading accepts what writing produces,
also with some or all of the padding left out, and nothing else.
-/

namespace ClusterPower.Text.Base64

def alphabet : List Char :=
  "ABCDEFGHIJKLMNOPQRSTUVWXYZabcdefghijklmnopqrstuvwxyz0123456789+/".toList

def digit (value : Nat) : Char :=
  alphabet.getD (value % 64) 'A'

def encode : Bytes → List Char
  | [] => []
  | [a] =>
    let bits := a.toNat * 16
    [digit (bits / 64), digit bits, '=', '=']
  | [a, b] =>
    let bits := (a.toNat * 256 + b.toNat) * 4
    [digit (bits / 4096), digit (bits / 64), digit bits, '=']
  | a :: b :: c :: rest =>
    let bits := (a.toNat * 256 + b.toNat) * 256 + c.toNat
    digit (bits / 262144) :: digit (bits / 4096) :: digit (bits / 64) :: digit bits ::
      encode rest

def value? (character : Char) : Option Nat :=
  let index := alphabet.findIdx (· == character)
  if index < 64 then some index else none

def lastByte? (a b : Char) : Option Bytes := do
  let bits := (← value? a) * 64 + (← value? b)
  if bits % 16 = 0 then some [UInt8.ofNat (bits / 16)] else none

def lastBytes? (a b c : Char) : Option Bytes := do
  let bits := ((← value? a) * 64 + (← value? b)) * 64 + (← value? c)
  if bits % 4 = 0 then some [UInt8.ofNat (bits / 1024), UInt8.ofNat (bits / 4)] else none

def decode? : List Char → Option Bytes
  | [] => some []
  | [a, b] | [a, b, '='] | [a, b, '=', '='] => lastByte? a b
  | [a, b, c] | [a, b, c, '='] => lastBytes? a b c
  | a :: b :: c :: d :: rest => do
    let bits := (((← value? a) * 64 + (← value? b)) * 64 + (← value? c)) * 64 + (← value? d)
    let decoded ← decode? rest
    some (UInt8.ofNat (bits / 65536) :: UInt8.ofNat (bits / 256) :: UInt8.ofNat bits :: decoded)
  | _ => none

example : String.ofList (encode (utf8 "root:pass")) = "cm9vdDpwYXNz" := by decide +kernel

example : decode? "cm9vdA==".toList = some (utf8 "root") := by decide +kernel

example : decode? "cm9vdA".toList = some (utf8 "root") := by decide +kernel

example : decode? "cm9vd===".toList = none := by decide +kernel

end ClusterPower.Text.Base64
