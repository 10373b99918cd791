import Mathlib.Data.List.TakeWhile
import Runbook.Network.Session

/-!
# Complete addresses

An address with a scheme and a host is left as it is by a session without a root of its own, and its
text begins with the scheme, which is what the look-up of cookies asks for.
-/

namespace Runbook.Address

variable {address : Address}

/-! ### The characters of a scheme -/

/-- What comes before the small letters in the order of characters is nothing in small letters. -/
theorem eq_of_toLower_eq {c mark : Char} (hmark : mark.toNat < 'a'.toNat) (h : c.toLower = mark) :
    c = mark := by
  delta Char.toLower at h
  split at h
  · next hupper =>
    have hlow : 65 ≤ c.val.toNat := UInt32.le_iff_toNat_le.mp hupper.1
    have hhigh : c.val.toNat ≤ 90 := UInt32.le_iff_toNat_le.mp hupper.2
    have hcode : mark.toNat = (c.val.toNat + 32) % 2 ^ 32 := h ▸ rfl
    have hsmall : mark.toNat < 97 := hmark
    omega
  · exact h

theorem toLower_ne_mark {c : Char} (h : Reference.isSchemeChar c = true) :
    c.toLower ≠ '/' ∧ c.toLower ≠ ':' := by
  constructor
  · intro hslash
    rw [eq_of_toLower_eq (by decide) hslash] at h
    exact absurd h (by decide)
  · intro hcolon
    rw [eq_of_toLower_eq (by decide) hcolon] at h
    exact absurd h (by decide)

theorem isSchemeChar_of_mem_splitScheme {cs : List Char} {c : Char} (hc : c ∈ (splitScheme cs).1) :
    Reference.isSchemeChar c = true := by
  unfold splitScheme at hc
  dsimp only at hc
  split at hc
  · split at hc
    · exact List.mem_takeWhile_imp hc
    · cases hc
  · cases hc

theorem exists_of_bind_eq_ok {α β : Type} {x : Except Fault α} {f : α → Except Fault β} {b : β}
    (h : x >>= f = .ok b) : ∃ a, x = .ok a ∧ f a = .ok b := by
  cases x with
  | error fault => cases h
  | ok a => exact ⟨a, rfl, h⟩

theorem eq_ok_of_toOption {α : Type} {x : Except Fault α} {a : α} (h : x.toOption = some a) :
    x = .ok a := by
  cases x with
  | error fault => cases h
  | ok b => exact congrArg Except.ok (Option.some.inj h)

theorem scheme_ofParts {parts : Parts} (h : ofParts parts = .ok address) :
    address.scheme = (String.ofList parts.scheme).toLower := by
  unfold ofParts at h
  obtain ⟨user, -, h⟩ := exists_of_bind_eq_ok h
  cases hhost : Hostname.encode (String.ofList parts.host) with
  | error fault => simp [hhost, bind, Except.bind] at h
  | ok host =>
    simp only [hhost] at h
    obtain ⟨_, -, h⟩ := exists_of_bind_eq_ok h
    obtain ⟨port, -, h⟩ := exists_of_bind_eq_ok h
    split at h
    · cases h
    · obtain ⟨path, -, h⟩ := exists_of_bind_eq_ok h
      obtain ⟨query, -, h⟩ := exists_of_bind_eq_ok h
      obtain ⟨fragment, -, h⟩ := exists_of_bind_eq_ok h
      cases h
      rfl

theorem ofParts_of_ofText {s : String} (h : ofText s = .ok address) :
    ofParts (Parts.ofChars s.toList) = .ok address := by
  unfold ofText at h
  dsimp only at h
  split at h
  · cases h
  · split at h
    · cases h
    · exact h

theorem scheme_ofText {s : String} (h : ofText s = .ok address) :
    ∀ c ∈ address.scheme.toList, c ≠ '/' ∧ c ≠ ':' := by
  have hscheme : address.scheme = (String.ofList (splitScheme s.toList).1).map Char.toLower :=
    scheme_ofParts (ofParts_of_ofText h)
  rw [hscheme, String.toList_map, String.toList_ofList]
  intro c hc
  obtain ⟨written, hwritten, rfl⟩ := List.mem_map.mp hc
  exact toLower_ne_mark (isSchemeChar_of_mem_splitScheme hwritten)

/-! ### The text of an address with a scheme -/

theorem exists_text_eq (hscheme : address.scheme ≠ "") :
    ∃ rest, address.text.toList = address.scheme.toList ++ ':' :: rest := by
  unfold text
  rw [if_neg (by simpa using hscheme)]
  simp only [String.toList_append, List.append_assoc]
  exact ⟨_, rfl⟩

theorem checkScheme_of_marks (hscheme : address.scheme ≠ "")
    (hmarks : ∀ c ∈ address.scheme.toList, c ≠ '/' ∧ c ≠ ':') :
    Session.checkScheme address = .ok () := by
  obtain ⟨rest, hrest⟩ := exists_text_eq hscheme
  have hname : (address.text.toList.takeWhile fun c => c != '/' && c != ':')
      = address.scheme.toList := by
    rw [hrest, List.takeWhile_append_of_pos fun c hc => by simpa using hmarks c hc]
    simp
  rw [Session.checkScheme]
  simp only [hname]
  rw [hrest, List.drop_left, List.head?_cons]
  simp [hscheme]

/-- An address that is complete names a scheme. -/
theorem checkScheme_of_isAbsolute {s : String} (h : ofText s = .ok address)
    (habsolute : address.isAbsolute = true) : Session.checkScheme address = .ok () := by
  refine checkScheme_of_marks ?_ (scheme_ofText h)
  intro hempty
  simp [isAbsolute, hempty] at habsolute

end Runbook.Address
