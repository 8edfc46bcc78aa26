import HttpProbe.Proofs.RequestFraming

/-!
# What the octets of a request tell

A request has octets unless one of its code points is too high for its line, or half of a surrogate
pair stands alone in its target. The octets tell the request again, as far as each line shows where
its parts end:

* `Request.encodedLines_eq_error_iff`: the code points that are too high;
* `append_pair_inj`: a text is cut in one way at a pair that does not stand before it;
* `Bytes.message_injective`: a message tells its lines. Induction on the lines of both;
* `Request.Separable`: no separator and no line end stands where it would be mistaken;
* **`toBytes_unambiguous`**: so the octets of such a request tell everything but how its target was
  escaped.
-/

namespace HttpProbe

/-! ## 1. Which requests have octets -/

namespace Request

/-- The lines cannot carry every code point of the request. -/
def Overflows (r : Request) : Prop :=
  (∃ p ∈ r.method ++ r.version, 0x7F < p.toNat) ∨
    ∃ header ∈ r.headers, ∃ p ∈ header.1 ++ header.2, 0xFF < p.toNat

theorem encodedLines_eq_error_iff {r : Request} :
    (∃ run, r.encodedLines = .error run) ↔ r.Overflows := by
  constructor
  · rintro ⟨run, hrun⟩
    by_contra hnone
    rw [Overflows, not_or] at hnone
    obtain ⟨hline, hheaders⟩ := hnone
    have hlow : ∀ p ∈ r.method ++ r.version, p.toNat < CodePage.ascii.size :=
      fun p hp => Nat.lt_of_not_le fun hhigh => hline ⟨p, hp, hhigh⟩
    obtain ⟨hmethod, hversion⟩ := List.forall_mem_append.1 hlow
    have hok := encodedLines_eq_ok_iff.2 ⟨hmethod, hversion, fun header hheader p hp =>
      Nat.lt_of_not_le fun hhigh => hheaders ⟨header, hheader, p, hp, hhigh⟩, rfl⟩
    cases hrun.symm.trans hok
  · intro hhigh
    cases hlines : r.encodedLines with
    | error run => exact ⟨run, rfl⟩
    | ok lines =>
      obtain ⟨hmethod, hversion, hheaders, -⟩ := encodedLines_eq_ok_iff.1 hlines
      rcases hhigh with ⟨p, hp, hhigh⟩ | ⟨header, hheader, p, hp, hhigh⟩
      · have hlow := List.forall_mem_append.2 ⟨hmethod, hversion⟩ p hp
        exact absurd hlow (Nat.not_lt_of_le hhigh)
      · exact absurd (hheaders header hheader p hp) (Nat.not_lt_of_le hhigh)

theorem target_fault_iff {r : Request} :
    (∃ run, Codec.utf8.fault? r.target = some run) ↔ ∃ p ∈ r.target, p.isChar = false := by
  rw [← Option.ne_none_iff_exists', ne_eq, Codec.fault?_eq_none_iff]
  simp [Codec.holds]

end Request

/-! ## 2. Cuts -/

section Cuts

variable {α : Type} {x y : α} {a a' b b' : List α}

/-- Where a list begins with two neighbours, and goes on with them later, they stand in between or
nothing does. They differ, so the pair does not overlap with the later one. -/
theorem eq_nil_of_pair (hxy : x ≠ y) {between : List α} (hnone : ¬ [x, y] <:+: a ++ between)
    (h : x :: y :: b = between ++ x :: y :: b') : between = [] := by
  rcases between with _ | ⟨z, _ | ⟨w, between⟩⟩
  · rfl
  · obtain ⟨hy, -⟩ := List.cons.inj (List.cons.inj h).2
    exact absurd hy.symm hxy
  · obtain ⟨rfl, hrest⟩ := List.cons.inj h
    obtain ⟨rfl, -⟩ := List.cons.inj hrest
    exact absurd ⟨a, between, by rw [List.append_assoc]; rfl⟩ hnone

/-- A list is cut in one way at the first occurrence of two neighbours. -/
theorem append_pair_inj (hxy : x ≠ y) (ha : ¬ [x, y] <:+: a) (ha' : ¬ [x, y] <:+: a')
    (h : a ++ x :: y :: b = a' ++ x :: y :: b') : a = a' ∧ b = b' := by
  have hsame : a = a' := by
    rcases List.append_eq_append_iff.1 h with ⟨between, rfl, hrest⟩ | ⟨between, rfl, hrest⟩
    · rw [eq_nil_of_pair hxy ha' hrest, List.append_nil]
    · rw [eq_nil_of_pair hxy ha hrest, List.append_nil]
  subst hsame
  obtain ⟨-, hrest⟩ := List.cons.inj (List.append_cancel_left h)
  exact ⟨rfl, (List.cons.inj hrest).2⟩

end Cuts

namespace Bytes

theorem message_cons_ne_nil {line : Bytes} (hline : line.OneLine) (lines : List Bytes) :
    message (line :: lines) ≠ message [] := by
  rw [message_cons]
  intro h
  rcases line with _ | ⟨b, tail⟩
  · exact hline.filled rfl
  · obtain ⟨rfl, -⟩ := List.cons.inj h
    exact hline.noReturn List.mem_cons_self

/-- **A message tells its lines.** -/
theorem message_injective {lines lines' : List Bytes} (h : ∀ line ∈ lines, line.OneLine)
    (h' : ∀ line ∈ lines', line.OneLine) (hsame : message lines = message lines') :
    lines = lines' := by
  induction lines generalizing lines' with
  | nil =>
    cases lines' with
    | nil => rfl
    | cons line' rest' =>
      exact absurd hsame.symm (message_cons_ne_nil (h' line' List.mem_cons_self) rest')
  | cons line rest ih =>
    cases lines' with
    | nil => exact absurd hsame (message_cons_ne_nil (h line List.mem_cons_self) rest)
    | cons line' rest' =>
      rw [message_cons, message_cons] at hsame
      obtain ⟨rfl, hrest⟩ := append_cons_inj (h line List.mem_cons_self).noReturn
        (h' line' List.mem_cons_self).noReturn hsame
      obtain rfl := ih (fun l hl => h l (List.mem_cons_of_mem _ hl))
        (fun l hl => h' l (List.mem_cons_of_mem _ hl)) (List.cons.inj hrest).2
      rfl

end Bytes

/-! ## 3. What the lines tell -/

/-- Octets tell a text of Latin-1. -/
theorem Text.octets_injective {text text' : Text} (h : ∀ p ∈ text, p.toNat < CodePage.latin1.size)
    (h' : ∀ p ∈ text', p.toNat < CodePage.latin1.size) (hsame : text.octets = text'.octets) :
    text = text' := by
  have hchars : text = ofString text.string :=
    eq_ofString_iff.2 fun p hp => CodePoint.isChar_of_toNat_lt (h p hp)
  have hchars' : text' = ofString text'.string :=
    eq_ofString_iff.2 fun p hp => CodePoint.isChar_of_toNat_lt (h' p hp)
  rw [hchars, hchars', ← decodeLatin1_octets h, ← decodeLatin1_octets h', hsame]

namespace Request

/-- Every line of the request is one line, and shows where its first parts end. A version may hold
spaces, and a value may hold what separates it from its name. -/
structure Separable (r : Request) : Prop where
  method : r.method.Lacks [' ', '\r', '\n']
  version : r.version.Lacks ['\r', '\n']
  names : ∀ header ∈ r.headers,
    header.1.Lacks ['\r', '\n'] ∧ ¬ [CodePoint.char ':', .char ' '] <:+: header.1
  values : ∀ header ∈ r.headers, header.2.Lacks ['\r', '\n']

theorem Separable.plain {r : Request} (h : r.Separable) (hr : r.Encodable) : r.Plain where
  method := ⟨hr.method, fun c hc => h.method c (List.mem_cons_of_mem _ hc)⟩
  version := ⟨hr.version, h.version⟩
  headers header hheader := by
    obtain ⟨hname, hvalue⟩ := List.forall_mem_append.1 (hr.headers header hheader)
    exact ⟨⟨hname, (h.names header hheader).1⟩, ⟨hvalue, h.values header hheader⟩⟩

/-- The first line tells its parts. -/
theorem line_injective {r r' : Request} (h : .char ' ' ∉ r.method) (h' : .char ' ' ∉ r'.method)
    (hsame : r.line = r'.line) :
    r.method = r'.method ∧ Percent.escape r.target.string = Percent.escape r'.target.string ∧
      r.version = r'.version := by
  have hspace (target : String) : .char ' ' ∉ Text.ofString (Percent.escape target) :=
    Percent.lacks_escape (fun _ hc => List.mem_singleton.1 hc ▸ rfl) target ' '
      (List.mem_singleton.2 rfl)
  obtain ⟨hmethod, hrest⟩ := append_cons_inj h h' hsame
  obtain ⟨htarget, hversion⟩ := append_cons_inj (hspace _) (hspace _) hrest
  exact ⟨hmethod, Text.ofString_injective htarget, hversion⟩

/-- The line of a header tells its name and its value. -/
theorem headerLine_injective {header header' : Text × Text}
    (h : ¬ [CodePoint.char ':', .char ' '] <:+: header.1)
    (h' : ¬ [CodePoint.char ':', .char ' '] <:+: header'.1)
    (hsame : headerLine header = headerLine header') : header = header' := by
  obtain ⟨hname, hvalue⟩ := append_pair_inj (by decide) h h' hsame
  exact Prod.ext hname hvalue

theorem headers_injective {headers headers' : List (Text × Text)}
    (hnames : ∀ header ∈ headers, ¬ [CodePoint.char ':', .char ' '] <:+: header.1)
    (hnames' : ∀ header ∈ headers', ¬ [CodePoint.char ':', .char ' '] <:+: header.1)
    (hlow : ∀ header ∈ headers, ∀ p ∈ header.1 ++ header.2, p.toNat < CodePage.latin1.size)
    (hlow' : ∀ header ∈ headers', ∀ p ∈ header.1 ++ header.2, p.toNat < CodePage.latin1.size)
    (hsame : headers.map (fun header => (headerLine header).octets)
      = headers'.map fun header => (headerLine header).octets) :
    headers = headers' := by
  induction headers generalizing headers' with
  | nil => exact (List.map_eq_nil_iff.1 hsame.symm).symm
  | cons header rest ih =>
    cases headers' with
    | nil => cases hsame
    | cons header' rest' =>
      obtain ⟨hfirst, hrest⟩ := List.cons.inj hsame
      have hline : headerLine header = headerLine header' :=
        Text.octets_injective
          (headerLine_encodable_iff.2 (hlow header List.mem_cons_self))
          (headerLine_encodable_iff.2 (hlow' header' List.mem_cons_self)) hfirst
      obtain rfl := headerLine_injective (hnames header List.mem_cons_self)
        (hnames' header' List.mem_cons_self) hline
      obtain rfl := ih (fun h hh => hnames h (List.mem_cons_of_mem _ hh))
        (fun h hh => hnames' h (List.mem_cons_of_mem _ hh))
        (fun h hh => hlow h (List.mem_cons_of_mem _ hh))
        (fun h hh => hlow' h (List.mem_cons_of_mem _ hh)) hrest
      rfl

/-- **The octets of a request are exact and unambiguous.** A request is refused for its target
exactly if half of a surrogate pair stands alone in it. Any other request is refused exactly if a
code point of its method or its version is no ASCII, or a code point of a header is no Latin-1, and
then for its lines. If the octets of two separable requests are the same, so are their methods,
their escaped targets, their versions and their headers, in order. -/
theorem toBytes_unambiguous :
    (∀ r : Request, ((∃ run, r.toBytes = .error (.target run)) ↔ ∃ p ∈ r.target, p.isChar = false) ∧
      ((∀ p ∈ r.target, p.isChar = true) → ((∃ run, r.toBytes = .error (.line run)) ↔
        (∃ p ∈ r.method ++ r.version, 0x7F < p.toNat) ∨
          ∃ header ∈ r.headers, ∃ p ∈ header.1 ++ header.2, 0xFF < p.toNat))) ∧
      ∀ (r r' : Request) (data : Bytes), r.Separable → r'.Separable →
        r.toBytes = .ok data → r'.toBytes = .ok data →
        r.method = r'.method ∧ Percent.escape r.target.string = Percent.escape r'.target.string ∧
          r.version = r'.version ∧ r.headers = r'.headers := by
  refine ⟨fun r => ⟨?_, fun htarget => ?_⟩, ?_⟩
  · rw [← target_fault_iff]
    unfold toBytes
    cases Codec.utf8.fault? r.target with
    | some run => simp
    | none => cases r.encodedLines <;> simp
  · show _ ↔ r.Overflows
    rw [← encodedLines_eq_error_iff]
    unfold toBytes
    rw [Codec.fault?_eq_none_iff.2 htarget]
    cases r.encodedLines <;> simp
  · intro r r' data h h' hdata hdata'
    obtain ⟨hr, rfl⟩ := toBytes_eq_ok_iff.1 hdata
    obtain ⟨hr', hmessage⟩ := toBytes_eq_ok_iff.1 hdata'
    have hlines : r.lines = r'.lines := Bytes.message_injective (oneLine_lines (h.plain hr))
      (oneLine_lines (h'.plain hr')) hmessage
    obtain ⟨hfirst, hrest⟩ := List.cons.inj hlines
    have hlow {r : Request} (hr : r.Encodable) : ∀ p ∈ r.line, p.toNat < CodePage.latin1.size :=
      fun p hp => Nat.lt_trans (line_encodable_iff.2 ⟨hr.method, hr.version⟩ p hp) (by decide)
    have hline : r.line = r'.line := Text.octets_injective (hlow hr) (hlow hr') hfirst
    obtain ⟨hmethod, htarget, hversion⟩ := line_injective (h.method ' ' List.mem_cons_self)
      (h'.method ' ' List.mem_cons_self) hline
    exact ⟨hmethod, htarget, hversion,
      headers_injective (fun header hheader => (h.names header hheader).2)
        (fun header hheader => (h'.names header hheader).2) hr.headers hr'.headers hrest⟩

/-- A request with a space in its target, a header without a name and one that ends in a colon. -/
def spaced : Request := { target := "/a b", headers := [("", "x: y"), ("z:", "")] }

/-- The same with the target as it is escaped. -/
def escaped : Request := { spaced with target := "/a%20b" }

theorem separable_spaced : spaced.Separable :=
  ⟨by decide, by decide, by decide, by decide⟩

theorem toBytes_unambiguous_spaced :
    spaced.Separable ∧ escaped.Separable ∧ spaced.target ≠ escaped.target ∧
      ∃ data, spaced.toBytes = .ok data ∧ escaped.toBytes = .ok data ∧
        Percent.escape spaced.target.string = Percent.escape escaped.target.string := by
  have hescaped : escaped.Separable := ⟨by decide, by decide, by decide, by decide⟩
  have hplain : spaced.Plain := by decide
  have hdata := toBytes_eq_ok_iff.2 ⟨hplain.encodable (by decide), rfl⟩
  have hdata' : escaped.toBytes = .ok (Bytes.message spaced.lines) := by
    rw [← hdata]
    decide +kernel
  have hsame := toBytes_unambiguous.2 spaced escaped _ separable_spaced hescaped hdata hdata'
  exact ⟨separable_spaced, hescaped, by decide, _, hdata, hdata', hsame.2.1⟩

end Request

end HttpProbe
