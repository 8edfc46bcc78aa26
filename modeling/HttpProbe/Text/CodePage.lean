import HttpProbe.Bytes
import HttpProbe.Text.CodePoint
import HttpProbe.Text.Escape

/-!
# Codes

ASCII and Latin-1 are code pages of one octet a character: they write a character as the octet of
its own number, and can write only the characters below 128 and below 256. UTF-8 can write every
character, but no lone half of a surrogate pair. `Codec.fault?` names the first run of a text that a
code cannot write, `CodePage.encode` writes a text that has none, and `decodeLatin1` reads any
octets, since every octet is a Latin-1 character.

Main statements: `encode_eq_ok_iff` says which texts a page can write and how, and
`decodeLatin1_of_encode` that Latin-1 reads back what it wrote.
-/

namespace HttpProbe

/-! ## 1. The codes -/

/-- A code page of one octet a character. -/
inductive CodePage where
  | ascii
  | latin1
  deriving DecidableEq

/-- How many characters the page holds. -/
def CodePage.size : CodePage → Nat
  | ascii => 128
  | latin1 => 256

inductive Codec where
  | page (page : CodePage)
  | utf8
  deriving DecidableEq

namespace Codec

/-- How messages name the code. -/
def name : Codec → String
  | page .ascii => "ascii"
  | page .latin1 => "latin-1"
  | utf8 => "utf-8"

/-- What messages say of a code point that the code cannot write. -/
def complaint : Codec → String
  | page p => s!"ordinal not in range({p.size})"
  | utf8 => "surrogates not allowed"

/-- Whether the code can write the code point. -/
def holds : Codec → CodePoint → Bool
  | page p, c => c.toNat < p.size
  | utf8, c => c.isChar

end Codec

/-! ## 2. What cannot be written -/

/-- A run of neighbouring code points that a code cannot write. -/
structure Unencodable where
  codec : Codec
  first : CodePoint
  /-- How many code points stand before the run. -/
  start : Nat
  length : Nat
  deriving DecidableEq

/-- What a message says of a run that cannot be written. -/
def Unencodable.message (u : Unencodable) : String :=
  let run :=
    if u.length ≤ 1 then
      s!"character '{String.ofList (Escape.escape u.first.toNat)}' in position {u.start}"
    else s!"characters in position {u.start}-{u.start + u.length - 1}"
  s!"'{u.codec.name}' codec can't encode {run}: {u.codec.complaint}"

/-- The first run of the text that the code cannot write. -/
def Codec.fault? (codec : Codec) (text : Text) : Option Unencodable :=
  match text.dropWhile codec.holds with
  | [] => none
  | p :: rest =>
    some ⟨codec, p, (text.takeWhile codec.holds).length,
      ((p :: rest).takeWhile fun q => !codec.holds q).length⟩

/-- A code can write a text when it can write each of its code points. -/
theorem Codec.fault?_eq_none_iff {codec : Codec} {text : Text} :
    codec.fault? text = none ↔ ∀ p ∈ text, codec.holds p = true := by
  have hdrop : text.dropWhile codec.holds = [] ↔ ∀ p ∈ text, codec.holds p = true := by
    induction text with
    | nil => simp
    | cons p rest ih =>
      cases hp : codec.holds p with
      | true => simp [hp, ih]
      | false => simp [hp]
  rw [← hdrop]
  unfold fault?
  cases text.dropWhile codec.holds <;> simp

/-- UTF-8 can write every string. -/
theorem Codec.fault?_ofString (s : String) : Codec.utf8.fault? (Text.ofString s) = none :=
  fault?_eq_none_iff.2 (Text.forall_mem_ofString.2 fun _ _ => rfl)

/-! ## 3. Writing and reading -/

/-- Each code point as the octet of its own number. -/
def Text.octets (text : Text) : Bytes := text.map fun p => p.toNat.toUInt8

namespace CodePage

/-- The octets of a text, or the first run that the page cannot write. -/
def encode (page : CodePage) (text : Text) : Except Unencodable Bytes :=
  match (Codec.page page).fault? text with
  | none => .ok text.octets
  | some run => .error run

/-- The text that octets stand for in Latin-1. -/
def decodeLatin1 (bs : Bytes) : String := String.ofList (bs.map fun b => Char.ofNat b.toNat)

/-- A page writes a text exactly when it holds all its code points, each as its own number. -/
theorem encode_eq_ok_iff {page : CodePage} {text : Text} {bs : Bytes} :
    page.encode text = .ok bs ↔ (∀ p ∈ text, p.toNat < page.size) ∧ bs = text.octets := by
  have hnone : (Codec.page page).fault? text = none ↔ ∀ p ∈ text, p.toNat < page.size :=
    Codec.fault?_eq_none_iff.trans (by simp [Codec.holds])
  unfold encode
  cases hfault : (Codec.page page).fault? text with
  | none => exact ⟨fun h => ⟨hnone.1 hfault, (Except.ok.inj h).symm⟩, fun h => congrArg _ h.2.symm⟩
  | some run =>
    refine ⟨fun h => (nomatch h), fun h => ?_⟩
    rw [hnone.2 h.1] at hfault
    cases hfault

/-- A page writes a string exactly when it holds all its characters. -/
theorem encode_string_eq_ok_iff {page : CodePage} {text : String} {bs : Bytes} :
    page.encode text = .ok bs ↔
      (∀ c ∈ text.toList, c.toNat < page.size) ∧ bs = text.toList.map fun c => c.toNat.toUInt8 := by
  rw [encode_eq_ok_iff, Text.forall_mem_ofString, Text.octets, Text.ofString, List.map_map]
  rfl

/-- Latin-1 reads back what it wrote. -/
theorem decodeLatin1_of_encode {text : String} {bs : Bytes} (h : latin1.encode text = .ok bs) :
    decodeLatin1 bs = text := by
  obtain ⟨hall, rfl⟩ := encode_string_eq_ok_iff.1 h
  have hmap : ∀ cs : List Char, (∀ c ∈ cs, c.toNat < 256) →
      (cs.map fun c => c.toNat.toUInt8).map (fun b => Char.ofNat b.toNat) = cs := by
    intro cs hcs
    induction cs with
    | nil => rfl
    | cons c rest ih =>
      have hc : c.toNat % 256 = c.toNat := Nat.mod_eq_of_lt (hcs c (by simp))
      simp only [List.map_cons, ih fun d hd => hcs d (by simp [hd])]
      congr 1
      simp [Nat.toUInt8, UInt8.toNat_ofNat', hc]
  unfold decodeLatin1
  rw [hmap _ hall, String.ofList_toList]

end CodePage

end HttpProbe
