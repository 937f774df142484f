import SuderraOs.Lib.Effect
import SuderraOs.Lib.JsonText
import SuderraOs.Lib.PosixPath
import SuderraOs.Lib.PyText
import SuderraOs.Lib.PyValue
import SuderraOs.Lib.Utf8

/-!
# What the evidence scripts share

The files they read, the libraries of Python they call and the forms of a digest and of a path that all of them ask for.
-/

namespace SuderraOs.Evidence

open Value

abbrev Bytes := List UInt8

abbrev Fields := List (String × Value)

/-- What the scripts ask of the libraries of Python: `hashlib.sha256`, `json.loads` (`none` where it raises `JSONDecodeError`) and the
text that `str` gives a value that is no string and no integer. -/
structure Python where
  sha256 : Bytes → Bytes
  loads : List Char → Option Value
  repr : Value → String

def Python.hexdigest (Γ : Python) (bytes : Bytes) : String := String.ofList (Hex.encode (Γ.sha256 bytes))

/-- A text of `n` lower case hexadecimal digits: a full match of the pattern of a digest or of a commit. -/
def isHex (n : Nat) (s : String) : Bool := s.toList.length == n && s.toList.all fun c => c.isDigit || ('a' ≤ c && c ≤ 'f')

/-- A digest of 32 bytes is a text of 64 digits. -/
theorem Python.isHex_hexdigest {Γ : Python} {bytes : Bytes} (h : (Γ.sha256 bytes).length = 32) : isHex 64 (Γ.hexdigest bytes) = true := by
  have hdigit : ∀ d < 16, ((Nat.digitChar d).isDigit || ('a' ≤ Nat.digitChar d && Nat.digitChar d ≤ 'f')) = true := by decide
  simp only [isHex, Python.hexdigest, String.toList_ofList, Hex.length_encode, h, Bool.and_eq_true, beq_self_eq_true, true_and,
    List.all_eq_true]
  intro c hc
  obtain ⟨d, hd, rfl⟩ := Hex.mem_encode hc
  exact hdigit d hd

/-- Digests that are the same text are the same bytes. -/
theorem Python.hexdigest_injective {Γ : Python} (h : Function.Injective Γ.sha256) : Function.Injective Γ.hexdigest :=
  fun _ _ heq => h (Hex.encode_injective (String.ofList_injective heq))

/-- A digest that is not all zeros. -/
def isDigest : Value → Bool
  | .str s => isHex 64 s && s != String.ofList (List.replicate 64 '0')
  | _ => false

/-- What the file at a path holds, if it is a regular file; links are followed. -/
abbrev Files := PosixPath → Option Bytes

/-- `read_json`: nothing where there is no file or its text is no JSON. A file that is not UTF-8 raises. -/
def readJson (Γ : Python) (files : Files) (path : PosixPath) : Except String (Option Value) :=
  match files path with
  | none => .ok none
  | some bytes => do
    let text ← orError "UnicodeDecodeError" (Utf8.decode bytes)
    .ok (Γ.loads (PyText.universalNewlines text.toList))

/-- A document that was written without carriage returns, and newlines after it, is read back. -/
theorem readJson_append {Γ : Python} {files : Files} {path : PosixPath} {style : JsonText.Style} {v : Value} {tail : List Char}
    (hstyle : style.Lawful) (hreturn : style.NoReturn) (hplain : v.plain = true) (htail : ∀ c ∈ tail, c = '\n')
    (hloads : Γ.loads = JsonText.read) (hfile : files path = some (Utf8.encode (String.ofList (JsonText.write style 0 v ++ tail)))) :
    readJson Γ files path = .ok (some v) := by
  have hspace : ∀ c ∈ tail, JsonText.isSpace c = true := fun c hc => by rw [htail c hc]; decide
  have hcr : '\r' ∉ JsonText.write style 0 v ++ tail := by
    rw [List.mem_append, not_or]
    exact ⟨hreturn.write v 0 hplain, fun hmem => absurd (htail _ hmem) (by decide)⟩
  rw [readJson, hfile]
  change (orError _ (Utf8.decode _) >>= fun text => .ok (Γ.loads (PyText.universalNewlines text.toList))) = _
  rw [Utf8.decode_encode, orError_some, ok_bind, String.toList_ofList, PyText.universalNewlines_eq hcr, hloads,
    JsonText.read_append hstyle hplain hspace]

/-- A document that was written without carriage returns is read back. -/
theorem readJson_write {Γ : Python} {files : Files} {path : PosixPath} {style : JsonText.Style} {v : Value} (hstyle : style.Lawful)
    (hreturn : style.NoReturn) (hplain : v.plain = true) (hloads : Γ.loads = JsonText.read)
    (hfile : files path = some (Utf8.encode (String.ofList (JsonText.write style 0 v)))) : readJson Γ files path = .ok (some v) :=
  readJson_append hstyle hreturn hplain (List.forall_mem_nil _) hloads (by simpa using hfile)

end SuderraOs.Evidence
