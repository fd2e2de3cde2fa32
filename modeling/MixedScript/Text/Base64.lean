/-!
# Base64

The standard alphabet with `=` padding: three bytes become four characters, and a final one or
two bytes become four characters ending in two or one `=`.
-/

namespace MixedScript.Text

/-- The standard alphabet. -/
def base64Alphabet : List Char :=
  "ABCDEFGHIJKLMNOPQRSTUVWXYZabcdefghijklmnopqrstuvwxyz0123456789+/".toList

/-- The character for a six-bit value. -/
def base64Digit (n : Nat) : Char :=
  base64Alphabet.getD (n % 64) 'A'

/-- Encodes bytes. -/
def base64Bytes : List UInt8 → List Char
  | a :: b :: c :: rest =>
    let n := a.toNat * 65536 + b.toNat * 256 + c.toNat
    [base64Digit (n / 262144), base64Digit (n / 4096), base64Digit (n / 64), base64Digit n] ++
      base64Bytes rest
  | [a, b] =>
    let n := a.toNat * 65536 + b.toNat * 256
    [base64Digit (n / 262144), base64Digit (n / 4096), base64Digit (n / 64), '=']
  | [a] =>
    let n := a.toNat * 65536
    [base64Digit (n / 262144), base64Digit (n / 4096), '=', '=']
  | [] => []

/-- Encodes the UTF-8 bytes of a text. -/
def base64 (s : String) : String :=
  String.ofList (base64Bytes s.toUTF8.toList)

theorem length_base64Bytes (bs : List UInt8) : (base64Bytes bs).length = 4 * ((bs.length + 2) / 3) := by
  induction bs using base64Bytes.induct with
  | case1 a b c rest ih => simp [base64Bytes, ih]; omega
  | case2 a b => simp [base64Bytes]
  | case3 a => simp [base64Bytes]
  | case4 => rfl

example : base64 "ls -la" = "bHMgLWxh" := by decide +kernel

end MixedScript.Text
