import Mathlib.Data.List.OfFn
import OptimizrActions.Lib.Json
import OptimizrActions.Lib.Text

/-! Library functions whose inner working nothing here depends on, and the text
form of a digest. -/

namespace OptimizrActions

/-- One Python installation. -/
structure Host where
  /-- `hashlib.sha256(data).digest()` -/
  sha256 : List UInt8 → Fin 32 → UInt8
  /-- `json.loads` of UTF-8 text; `none` when either decoding fails -/
  loads : List UInt8 → Option Json
  /-- `json.dumps(value, sort_keys=True, separators=(",", ":")).encode("utf-8")` -/
  dumps : Json → List UInt8
  /-- `str(value)` of a value that is not text -/
  str : Json → String

def hexDigit (n : Nat) : Char := if n < 10 then Char.ofNat (48 + n) else Char.ofNat (87 + n)

/-- The two digits of a byte. -/
def hexByte (b : UInt8) : List Char := [hexDigit (b.toNat / 16), hexDigit (b.toNat % 16)]

/-- `hexdigest()`. -/
def hexdigest (digest : Fin 32 → UInt8) : String :=
  String.ofList ((List.ofFn digest).flatMap hexByte)

def base64Digit (n : Nat) : Char :=
  if n < 26 then Char.ofNat (65 + n)
  else if n < 52 then Char.ofNat (71 + n)
  else if n < 62 then Char.ofNat (n - 4)
  else if n = 62 then '+' else '/'

/-- `base64.b64encode(data).decode()` -/
def b64encode : List UInt8 → List Char
  | [] => []
  | [a] => [base64Digit (a.toNat / 4), base64Digit (a.toNat % 4 * 16), '=', '=']
  | [a, b] => [base64Digit (a.toNat / 4), base64Digit (a.toNat % 4 * 16 + b.toNat / 16),
      base64Digit (b.toNat % 16 * 4), '=']
  | a :: b :: c :: rest =>
    base64Digit (a.toNat / 4) :: base64Digit (a.toNat % 4 * 16 + b.toNat / 16) ::
      base64Digit (b.toNat % 16 * 4 + c.toNat / 64) :: base64Digit (c.toNat % 64) :: b64encode rest

namespace Host

def sha256Hex (host : Host) (data : List UInt8) : String := hexdigest (host.sha256 data)

/-- `str(value or "").strip()`. -/
def normalText (host : Host) : Json → String
  | .str s => Text.strip s
  | value => if value.truthy then Text.strip (host.str value) else ""

end Host

namespace Text

def hexText (isDigit : Char → Bool) (length : Nat) (cs : List Char) : Bool :=
  cs.length = length && cs.all isDigit

/-- `sha256:` and 64 digits of the given kind. -/
def sha256Text (isDigit : Char → Bool) (s : String) : Bool :=
  "sha256:".toList.isPrefixOf s.toList && hexText isDigit 64 (s.toList.drop 7)

theorem isLowerHex_hexDigit {n : Nat} (h : n < 16) : isLowerHex (hexDigit n) = true := by
  revert n
  decide

theorem hexByte_injective {a b : UInt8} (h : hexByte a = hexByte b) : a = b := by
  have digits : ∀ m < 16, ∀ n < 16, hexDigit m = hexDigit n → m = n := by decide
  obtain ⟨high, low, -⟩ := And.imp_right List.cons.inj (List.cons.inj h)
  have ha := a.toNat_lt
  have hb := b.toNat_lt
  have high := digits _ (by omega) _ (by omega) high
  have low := digits _ (by omega) _ (by omega) low
  exact UInt8.toNat_inj.mp (by omega)

theorem flatMap_hexByte_injective {xs ys : List UInt8}
    (h : xs.flatMap hexByte = ys.flatMap hexByte) : xs = ys := by
  induction xs generalizing ys with
  | nil =>
    cases ys with
    | nil => rfl
    | cons y ys => cases h
  | cons x xs ih =>
    cases ys with
    | nil => cases h
    | cons y ys =>
      simp only [List.flatMap_cons] at h
      obtain ⟨first, rest⟩ := List.append_inj h rfl
      rw [hexByte_injective first, ih rest]

theorem hexdigest_injective {a b : Fin 32 → UInt8} (h : hexdigest a = hexdigest b) : a = b :=
  List.ofFn_injective (flatMap_hexByte_injective (String.ofList_injective h))

theorem hexText_hexdigest (digest : Fin 32 → UInt8) :
    hexText isLowerHex 64 (hexdigest digest).toList = true := by
  have digits : ∀ b : UInt8, (hexByte b).all isLowerHex = true := fun b => by
    have := b.toNat_lt
    simp [hexByte, isLowerHex_hexDigit (n := b.toNat / 16) (by omega),
      isLowerHex_hexDigit (n := b.toNat % 16) (by omega)]
  have length : ∀ bytes : List UInt8, (bytes.flatMap hexByte).length = 2 * bytes.length := by
    intro bytes
    induction bytes with
    | nil => rfl
    | cons b bytes ih => simp [List.flatMap_cons, ih, hexByte]; omega
  rw [hexText, hexdigest, String.toList_ofList, Bool.and_eq_true, decide_eq_true_eq, length,
    List.length_ofFn, List.all_flatMap, List.all_eq_true]
  exact ⟨rfl, fun b _ => digits b⟩

end Text

end OptimizrActions
