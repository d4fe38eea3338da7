import Pinpoint.Proofs.Settings.Create
import Pinpoint.Proofs.Toml.Overlong

/-!
# Settings that cannot be read

A file of settings that cannot be read, or that holds no document, is a fault that commands
report. There are two ways out: bytes that are the UTF-8 of no text, and a whole number with
more digits than are converted. Both fail before there is a document that could be at fault,
and no command that reads its settings reports them.

* `OpenedOrWrong`: settings are opened, or they fail for a reason that commands report.
* `Fit`: bytes that neither way out is taken for.
* `openedOrWrong_iff`: settings are opened or wrong exactly if their bytes are fit.
* `not_fit_iff`, `not_fit_of_entry`: what makes bytes unfit.
* `hasNumeral_of_not_fit`: the digits that stand in an unfit text.
-/

namespace Pinpoint.Settings

open Toml (Document HasNumeral)

variable {t : Tree} {cwd : Place} {dir : Path} {bytes : List UInt8} {source : Text} {n : Nat}

/-! ## Specification -/

/-- Settings are opened, or they cannot be had for a reason that commands report. -/
def OpenedOrWrong (opened : Except Fault Settings) : Prop :=
  ∀ fault, opened = .error fault → fault.isWrong = true

/-- The bytes are those of a text, and no number in it has so many digits that it stops the
    reader. -/
def Fit (bytes : List UInt8) : Prop :=
  ∃ source, Utf8.encode source = bytes ∧ ∀ n, Document.parse source ≠ .error (.overlong n)

/-! ## What makes bytes unfit -/

theorem not_fit_iff : ¬ Fit bytes ↔
    (∀ source, Utf8.encode source ≠ bytes) ∨
      ∃ source n, Utf8.encode source = bytes ∧ Document.parse source = .error (.overlong n) := by
  constructor
  · intro h
    by_cases htext : ∃ source, Utf8.encode source = bytes
    · obtain ⟨source, hsource⟩ := htext
      refine .inr ?_
      by_contra hnone
      exact h ⟨source, hsource, fun n hn => hnone ⟨source, n, hsource, hn⟩⟩
    · exact .inl fun source hsource => htext ⟨source, hsource⟩
  · rintro (hnone | ⟨source, n, rfl, hn⟩) ⟨source', hsource', hfit⟩
    · exact hnone source' hsource'
    · rw [Utf8.encode_injective hsource'] at hfit
      exact hfit n hn

/-- Bytes that are unfit and yet the bytes of a text hold a number with too many digits. -/
theorem hasNumeral_of_not_fit (h : ¬ Fit (Utf8.encode source)) :
    ∃ n, Decimal.digitLimit < n ∧ HasNumeral source n := by
  rcases not_fit_iff.1 h with hnone | ⟨source', n, hsource', hn⟩
  · exact absurd rfl (hnone source)
  · rw [Utf8.encode_injective hsource'] at hn
    exact ⟨n, Document.hasNumeral_of_parse hn⟩

/-- An entry with a number of too many digits makes the bytes unfit, whatever is read before it and
    whatever is behind it. -/
theorem not_fit_of_entry {before name ds rest : Text} {c : Char} {d : Document}
    (hbefore : Document.Reads {} before d) (hname : Toml.IsBareName name)
    (hds : ∀ d ∈ c :: ds, d.isDigit = true) (hzero : c ≠ '0')
    (hlimit : Decimal.digitLimit < (c :: ds).length)
    (hreturn : '\r' ∉ before ++ (name ++ ' ' :: '=' :: ' ' :: (c :: ds ++ '\n' :: rest))) :
    ¬ Fit (Utf8.encode (before ++ (name ++ ' ' :: '=' :: ' ' :: (c :: ds ++ '\n' :: rest)))) :=
  not_fit_iff.2 (.inr ⟨_, _, rfl,
    Document.parse_of_overlong hbefore hname hds hzero hlimit hreturn⟩)

/-! ## Opening settings -/

/-- A file that is there is opened as its bytes are. -/
theorem open_of_contentOf (hpresent : fileExists t cwd (fileIn dir) = .ok true)
    (hcontent : t.contentOf cwd (fileIn dir) = .ok bytes) :
    Settings.open t cwd dir = (tableOfBytes bytes).map (⟨dir, ·⟩) := by
  simp only [Settings.open, load, hpresent, hcontent]
  rfl

theorem open_of_contentOf_error {e : OsError}
    (hpresent : fileExists t cwd (fileIn dir) = .ok true)
    (hcontent : t.contentOf cwd (fileIn dir) = .error e) :
    Settings.open t cwd dir = .error (.unreadable e) := by
  simp only [Settings.open, load, hpresent, hcontent]
  rfl

/-- Settings are opened or wrong exactly if their bytes are fit. -/
theorem openedOrWrong_iff (hpresent : fileExists t cwd (fileIn dir) = .ok true)
    (hcontent : t.contentOf cwd (fileIn dir) = .ok bytes) :
    OpenedOrWrong (Settings.open t cwd dir) ↔ Fit bytes := by
  rw [open_of_contentOf hpresent hcontent, tableOfBytes]
  constructor
  · intro h
    by_contra hunfit
    rcases not_fit_iff.1 hunfit with hnone | ⟨source, n, rfl, hn⟩
    · cases hdecode : Utf8.decode bytes with
      | ok source => exact hnone source (Utf8.decode_eq_ok_iff.1 hdecode)
      | error fault =>
        rw [hdecode] at h
        cases h _ rfl
    · rw [Utf8.decode_encode] at h
      simp only [hn] at h
      cases h _ rfl
  · rintro ⟨source, rfl, hfit⟩ fault h
    rw [Utf8.decode_encode] at h
    cases hparse : Document.parse source with
    | ok table =>
      simp only [hparse] at h
      cases h
    | error stop =>
      rcases stop with ⟨reason, place⟩ | n
      · simp only [hparse] at h
        cases h
        rfl
      · exact absurd hparse (hfit n)

end Pinpoint.Settings
