/-
  ControlRoom.Foundation.Utf8
  ───────────────────────────
  **BYTES READ AS TEXT — the general layer.**

  Bytes that are part of no character are read as U+FFFD, one for each.  A
  text that is cut into pieces keeps its characters just when every piece
  begins with the first byte of one.

    • `lossy_utf8_append` — whole characters are read as they are,
    • `utf8_lossy` — where nothing has been replaced, the bytes are the text's,
    • `countP_le_length_lossy` — no first byte is lost, and a piece that
      begins in a character is read as more than it should be,
    • `flatMap_lossy_iff` — when the pieces of a text read as the text,
    • `lossy_append_of_begins` — any bytes may be cut in front of a first byte.

  Nothing here mentions a particular program.
-/
import Mathlib.Data.List.Basic

namespace Foundation

/-! ## §1. Encoding and reading. -/

/-- The bytes of a text. -/
def utf8 (text : List Char) : List UInt8 := text.flatMap String.utf8EncodeChar

/-- The character that the bytes begin with. -/
def firstChar (bytes : List UInt8) : Option Char := bytes.toByteArray.utf8DecodeChar? 0

/-- U+FFFD. -/
def replacement : Char := Char.ofNat 0xFFFD

/-- The bytes behind the first `skip` ones, read as text. -/
def lossyFrom : Nat → List UInt8 → List Char
  | _, [] => []
  | skip + 1, _ :: bytes => lossyFrom skip bytes
  | 0, b :: bytes =>
      match firstChar (b :: bytes) with
      | some c => c :: lossyFrom (c.utf8Size - 1) bytes
      | none => replacement :: lossyFrom 0 bytes

/-- Bytes read as text. -/
def lossy (bytes : List UInt8) : List Char := lossyFrom 0 bytes

/-- The byte is the first one of a character, or could be. -/
def isFirst (b : UInt8) : Bool := decide b.IsUTF8FirstByte

/-- The bytes do not begin inside a character. -/
def Begins (bytes : List UInt8) : Prop := ∀ b ∈ bytes.head?, isFirst b = true

instance (bytes : List UInt8) : Decidable (Begins bytes) :=
  inferInstanceAs (Decidable (∀ b ∈ bytes.head?, _))

@[simp] theorem utf8_nil : utf8 [] = [] := rfl
@[simp] theorem utf8_cons (c : Char) (text : List Char) :
    utf8 (c :: text) = String.utf8EncodeChar c ++ utf8 text := rfl
@[simp] theorem utf8_append (s t : List Char) : utf8 (s ++ t) = utf8 s ++ utf8 t :=
  List.flatMap_append
@[simp] theorem lossy_nil : lossy [] = [] := rfl

theorem firstChar_encode_append (c : Char) (bytes : List UInt8) :
    firstChar (String.utf8EncodeChar c ++ bytes) = some c := by
  unfold firstChar
  rw [List.toByteArray_append]
  exact ByteArray.utf8DecodeChar?_utf8EncodeChar_append

/-- What begins with a character begins with its bytes. -/
theorem eq_of_firstChar {bytes : List UInt8} {c : Char} (h : firstChar bytes = some c) :
    ∃ rest, bytes = String.utf8EncodeChar c ++ rest := by
  obtain ⟨rest, hrest⟩ := ByteArray.exists_of_utf8DecodeChar?_eq_some h
  refine ⟨rest.data.toList, ?_⟩
  have hlist := congrArg (fun b : ByteArray => b.data.toList) hrest
  simpa [List.toList_data_toByteArray] using hlist

theorem lossyFrom_eq (skip : Nat) (bytes : List UInt8) :
    lossyFrom skip bytes = lossy (bytes.drop skip) := by
  induction bytes generalizing skip with
  | nil =>
      rw [List.drop_nil]
      cases skip <;> rfl
  | cons b bytes ih =>
      cases skip with
      | zero => rfl
      | succ skip => exact ih skip

theorem encode_ne_nil (c : Char) : String.utf8EncodeChar c ≠ [] := by
  intro hnil
  have hlen := String.length_utf8EncodeChar c
  have hpos := c.utf8Size_pos
  rw [hnil, List.length_nil] at hlen
  omega

/-- **Whole characters are read as they are.** -/
theorem lossy_encode_append (c : Char) (bytes : List UInt8) :
    lossy (String.utf8EncodeChar c ++ bytes) = c :: lossy bytes := by
  obtain ⟨b, more, hcode⟩ := List.exists_cons_of_ne_nil (encode_ne_nil c)
  have hfirst := firstChar_encode_append c bytes
  have hsize : c.utf8Size - 1 = more.length := by
    rw [← String.length_utf8EncodeChar c, hcode, List.length_cons, Nat.add_sub_cancel]
  rw [hcode, List.cons_append] at hfirst ⊢
  show (match firstChar (b :: (more ++ bytes)) with
    | some c => c :: lossyFrom (c.utf8Size - 1) (more ++ bytes)
    | none => replacement :: lossyFrom 0 (more ++ bytes)) = _
  rw [hfirst]
  show c :: lossyFrom (c.utf8Size - 1) (more ++ bytes) = _
  rw [lossyFrom_eq, hsize, List.drop_left]

theorem lossy_utf8_append (text : List Char) (bytes : List UInt8) :
    lossy (utf8 text ++ bytes) = text ++ lossy bytes := by
  induction text with
  | nil => rfl
  | cons c text ih =>
      rw [utf8_cons, List.append_assoc, lossy_encode_append, ih]
      rfl

@[simp] theorem lossy_utf8 (text : List Char) : lossy (utf8 text) = text := by
  have h := lossy_utf8_append text []
  rwa [List.append_nil, lossy_nil, List.append_nil] at h

theorem utf8_injective {s t : List Char} (h : utf8 s = utf8 t) : s = t := by
  rw [← lossy_utf8 s, h, lossy_utf8]

/-- **The step of a reading**: bytes begin with a character, or their first one is replaced. -/
theorem lossy_cases {bytes : List UInt8} (hne : bytes ≠ []) :
    (∃ c rest, bytes = String.utf8EncodeChar c ++ rest ∧ lossy bytes = c :: lossy rest)
      ∨ ∃ b rest, bytes = b :: rest ∧ firstChar bytes = none
        ∧ lossy bytes = replacement :: lossy rest := by
  obtain ⟨b, rest, rfl⟩ := List.exists_cons_of_ne_nil hne
  cases hfirst : firstChar (b :: rest) with
  | some c =>
      obtain ⟨more, hmore⟩ := eq_of_firstChar hfirst
      rw [hmore]
      exact .inl ⟨c, more, rfl, lossy_encode_append c more⟩
  | none =>
      refine .inr ⟨b, rest, rfl, rfl, ?_⟩
      show (match firstChar (b :: rest) with
        | some c => c :: lossyFrom (c.utf8Size - 1) rest
        | none => replacement :: lossyFrom 0 rest) = _
      rw [hfirst]
      rfl

/-- Where nothing has been replaced, the bytes are those of the text. -/
theorem utf8_lossy {bytes : List UInt8} (h : replacement ∉ lossy bytes) :
    utf8 (lossy bytes) = bytes := by
  induction hlen : bytes.length using Nat.strongRecOn generalizing bytes with
  | _ n ih =>
      by_cases hnil : bytes = []
      · rw [hnil]
        rfl
      rcases lossy_cases hnil with ⟨c, rest, hbytes, hlossy⟩ | ⟨b, rest, _, _, hlossy⟩
      · have hshort : rest.length < n := by
          have hpos := c.utf8Size_pos
          rw [← hlen, hbytes, List.length_append, String.length_utf8EncodeChar]
          omega
        rw [hlossy, List.mem_cons, not_or] at h
        rw [hlossy, utf8_cons, ih _ hshort h.2 rfl, hbytes]
      · rw [hlossy] at h
        exact absurd List.mem_cons_self h

/-! ## §2. First bytes. -/

/-- Of the bytes of a character, the first one is a first byte, and no other. -/
theorem encode_eq_cons (c : Char) : ∃ b rest, String.utf8EncodeChar c = b :: rest
    ∧ isFirst b = true ∧ ∀ r ∈ rest, isFirst r = false := by
  obtain ⟨b, rest, hcode⟩ := List.exists_cons_of_ne_nil (encode_ne_nil c)
  have hbyte : ∀ i (hi : i < (b :: rest).length), isFirst (b :: rest)[i] = decide (i = 0) := by
    intro i hi
    have hlen : i < (String.utf8EncodeChar c).length := hcode ▸ hi
    have hiff : (String.utf8EncodeChar c)[i].IsUTF8FirstByte ↔ i = 0 :=
      UInt8.isUTF8FirstByte_getElem_utf8EncodeChar
    simp only [hcode] at hiff
    unfold isFirst
    exact decide_eq_decide.mpr hiff
  refine ⟨b, rest, hcode, hbyte 0 (Nat.succ_pos _), fun r hr => ?_⟩
  obtain ⟨i, hi, rfl⟩ := List.getElem_of_mem hr
  exact hbyte (i + 1) (Nat.succ_lt_succ hi)

theorem countP_encode (c : Char) : (String.utf8EncodeChar c).countP isFirst = 1 := by
  obtain ⟨b, rest, hcode, hb, hrest⟩ := encode_eq_cons c
  rw [hcode, List.countP_cons_of_pos hb, List.countP_eq_zero.mpr (by simpa using hrest)]

/-- A text has as many first bytes as characters. -/
theorem countP_utf8 (text : List Char) : (utf8 text).countP isFirst = text.length := by
  induction text with
  | nil => rfl
  | cons c text ih =>
      rw [utf8_cons, List.countP_append, countP_encode, ih, List.length_cons, Nat.add_comm]

/-- **No first byte is lost**: each begins a character, or is replaced. -/
theorem countP_le_length_lossy (bytes : List UInt8) :
    bytes.countP isFirst ≤ (lossy bytes).length := by
  induction hlen : bytes.length using Nat.strongRecOn generalizing bytes with
  | _ n ih =>
      by_cases hnil : bytes = []
      · rw [hnil]
        exact Nat.le_refl _
      rcases lossy_cases hnil with ⟨c, rest, hbytes, hlossy⟩ | ⟨b, rest, hbytes, _, hlossy⟩
      · have hshort : rest.length < n := by
          have hpos := c.utf8Size_pos
          rw [← hlen, hbytes, List.length_append, String.length_utf8EncodeChar]
          omega
        have hrest := ih _ hshort rest rfl
        rw [hlossy, hbytes, List.countP_append, countP_encode, List.length_cons]
        omega
      · have hshort : rest.length < n := by
          rw [← hlen, hbytes]
          exact Nat.lt_succ_self _
        have hrest := ih _ hshort rest rfl
        rw [hlossy, hbytes, List.countP_cons, List.length_cons]
        split <;> omega

/-- **A piece that begins inside a character** is read as more characters than it has first
bytes. -/
theorem countP_lt_length_lossy {bytes : List UInt8} (h : ¬ Begins bytes) :
    bytes.countP isFirst < (lossy bytes).length := by
  have hnil : bytes ≠ [] := by
    rintro rfl
    exact h fun b hb => by cases hb
  rcases lossy_cases hnil with ⟨c, rest, rfl, _⟩ | ⟨b, rest, rfl, _, hlossy⟩
  · -- a character begins with a first byte
    obtain ⟨b, more, hcode, hb, _⟩ := encode_eq_cons c
    refine absurd (fun b' hb' => ?_) h
    rw [hcode] at hb'
    cases hb'
    exact hb
  · have hb : isFirst b = false := by
      rw [Bool.eq_false_iff]
      intro hb
      refine h fun b' hb' => ?_
      cases hb'
      exact hb
    have hrest := countP_le_length_lossy rest
    rw [hlossy, List.countP_cons_of_neg (by rw [hb]; exact Bool.false_ne_true), List.length_cons]
    omega

/-! ## §3. A text in pieces. -/

/-- The characters of a text that begin at the byte `k` or behind it. -/
def charsFrom : Nat → List Char → List Char
  | 0, text => text
  | _ + 1, [] => []
  | k + 1, c :: text => charsFrom (k + 1 - c.utf8Size) text

/-- A piece at whose end a character ends has whole characters. -/
theorem utf8_eq_append {text : List Char} {p q : List UInt8} (h : utf8 text = p ++ q)
    (hq : Begins q) : ∃ s t, text = s ++ t ∧ p = utf8 s ∧ q = utf8 t := by
  induction text generalizing p with
  | nil =>
      obtain ⟨rfl, rfl⟩ := List.append_eq_nil_iff.mp h.symm
      exact ⟨[], [], rfl, rfl, rfl⟩
  | cons c text ih =>
      cases p with
      | nil => exact ⟨[], c :: text, rfl, rfl, h.symm⟩
      | cons b p =>
          rw [utf8_cons] at h
          rcases List.append_eq_append_iff.mp h with ⟨p', hp, hrest⟩ | ⟨r, hcode, hq'⟩
          · obtain ⟨s, t, rfl, rfl, rfl⟩ := ih hrest
            exact ⟨c :: s, t, rfl, hp, rfl⟩
          · cases r with
            | nil =>
                rw [List.append_nil] at hcode
                rw [List.nil_append] at hq'
                exact ⟨[c], text, rfl, by rw [utf8_cons, hcode]; exact (List.append_nil _).symm,
                  hq'⟩
            | cons r₀ r =>
                -- `q` would begin with a byte inside `c`
                obtain ⟨b₀, more, hcons, _, hmore⟩ := encode_eq_cons c
                rw [hcode] at hcons
                obtain ⟨_, rfl⟩ := List.cons.inj hcons
                have hin := hmore r₀ (List.mem_append_right _ List.mem_cons_self)
                have hfirst := hq r₀ (by rw [hq']; rfl)
                rw [hfirst] at hin
                cases hin

/-- The bytes from `k` on have the first bytes of the characters from there on. -/
theorem countP_drop_utf8 (k : Nat) (text : List Char) :
    ((utf8 text).drop k).countP isFirst = (charsFrom k text).length := by
  induction text generalizing k with
  | nil =>
      rw [utf8_nil, List.drop_nil]
      cases k <;> rfl
  | cons c text ih =>
      cases k with
      | zero => exact countP_utf8 (c :: text)
      | succ k =>
          obtain ⟨b, more, hcode, _, hmore⟩ := encode_eq_cons c
          have hsize : c.utf8Size = more.length + 1 := by
            rw [← String.length_utf8EncodeChar c, hcode, List.length_cons]
          have hnone : (more.drop k).countP isFirst = 0 := by
            rw [List.countP_eq_zero]
            intro r hr
            rw [hmore r (List.mem_of_mem_drop hr)]
            exact Bool.false_ne_true
          show _ = (charsFrom (k + 1 - c.utf8Size) text).length
          rw [← ih, utf8_cons, hcode, List.cons_append, List.drop_succ_cons, List.drop_append,
            List.countP_append, hnone, Nat.zero_add, hsize, Nat.add_sub_add_right]

/-- Where a character begins, the bytes from there on are those of the characters. -/
theorem drop_utf8 {k : Nat} {text : List Char} (h : Begins ((utf8 text).drop k)) :
    (utf8 text).drop k = utf8 (charsFrom k text) := by
  induction text generalizing k with
  | nil =>
      rw [utf8_nil, List.drop_nil]
      cases k <;> rfl
  | cons c text ih =>
      cases k with
      | zero => rfl
      | succ k =>
          obtain ⟨b, more, hcode, _, hmore⟩ := encode_eq_cons c
          have hsize : c.utf8Size = more.length + 1 := by
            rw [← String.length_utf8EncodeChar c, hcode, List.length_cons]
          show _ = utf8 (charsFrom (k + 1 - c.utf8Size) text)
          rw [utf8_cons, hcode, List.cons_append, List.drop_succ_cons, List.drop_append] at h ⊢
          rw [hsize, Nat.add_sub_add_right]
          cases hrest : more.drop k with
          | nil =>
              rw [hrest] at h
              exact ih h
          | cons r rest =>
              -- the byte `k + 1` lies inside `c`
              rw [hrest] at h
              have hr := hmore r (List.mem_of_mem_drop (hrest ▸ List.mem_cons_self))
              have hfirst := h r rfl
              rw [hfirst] at hr
              cases hr

/-- Pieces that all begin with a character's first byte. -/
theorem begins_flatten {pieces : List (List UInt8)} (h : ∀ p ∈ pieces, Begins p) :
    Begins pieces.flatten := by
  induction pieces with
  | nil => exact fun b hb => by cases hb
  | cons p pieces ih =>
      cases p with
      | nil => exact ih fun q hq => h q (List.mem_cons_of_mem _ hq)
      | cons b p => exact h (b :: p) List.mem_cons_self

theorem flatMap_lossy_of_begins {pieces : List (List UInt8)} {text : List Char}
    (h : pieces.flatten = utf8 text) (hbegins : ∀ p ∈ pieces, Begins p) :
    pieces.flatMap lossy = text := by
  induction pieces generalizing text with
  | nil => exact utf8_injective (s := []) h
  | cons p pieces ih =>
      have hrest : ∀ q ∈ pieces, Begins q := fun q hq => hbegins q (List.mem_cons_of_mem _ hq)
      obtain ⟨s, t, rfl, hp, ht⟩ := utf8_eq_append h.symm (begins_flatten hrest)
      rw [List.flatMap_cons, ih ht hrest, hp, lossy_utf8]

theorem countP_flatten_le (pieces : List (List UInt8)) :
    pieces.flatten.countP isFirst ≤ (pieces.flatMap lossy).length := by
  induction pieces with
  | nil => exact Nat.le_refl _
  | cons p pieces ih =>
      have hp := countP_le_length_lossy p
      rw [List.flatten_cons, List.countP_append, List.flatMap_cons, List.length_append]
      omega

/-- **A cut in front of a first byte** changes nothing, whatever the bytes are. -/
theorem lossy_append_of_begins {p q : List UInt8} (hq : Begins q) :
    lossy (p ++ q) = lossy p ++ lossy q := by
  induction hlen : p.length using Nat.strongRecOn generalizing p with
  | _ n ih =>
      by_cases hnil : p = []
      · rw [hnil]
        rfl
      rcases lossy_cases hnil with ⟨c, rest, hp, hlossy⟩ | ⟨b, rest, hp, hfirst, hlossy⟩
      · have hshort : rest.length < n := by
          have hpos := c.utf8Size_pos
          rw [← hlen, hp, List.length_append, String.length_utf8EncodeChar]
          omega
        rw [hlossy, hp, List.append_assoc, lossy_encode_append, ih _ hshort rfl]
        rfl
      · have hshort : rest.length < n := by
          rw [← hlen, hp]
          exact Nat.lt_succ_self _
        have hne : p ++ q ≠ [] := List.append_ne_nil_of_left_ne_nil hnil q
        rcases lossy_cases hne with ⟨c, more, hpq, _⟩ | ⟨b', more, hpq, _, hlossy'⟩
        · -- the character would be completed by bytes of `q`, whose first one begins another
          exfalso
          rcases List.append_eq_append_iff.mp hpq with ⟨r, hcode, hq'⟩ | ⟨r, hp', _⟩
          · cases r with
            | nil =>
                rw [List.append_nil] at hcode
                have hself := firstChar_encode_append c []
                rw [List.append_nil, hcode, hfirst] at hself
                cases hself
            | cons r₀ r =>
                obtain ⟨b₀, tail, hcons, _, htail⟩ := encode_eq_cons c
                rw [hcode, hp, List.cons_append] at hcons
                obtain ⟨_, rfl⟩ := List.cons.inj hcons
                have hin := htail r₀ (List.mem_append_right _ List.mem_cons_self)
                have hfirst := hq r₀ (by rw [hq']; rfl)
                rw [hfirst] at hin
                cases hin
          · have hself := firstChar_encode_append c r
            rw [← hp', hfirst] at hself
            cases hself
        · rw [hp, List.cons_append] at hpq
          obtain ⟨_, rfl⟩ := List.cons.inj hpq
          rw [hlossy', hlossy, ih _ hshort rfl]
          rfl

theorem lossy_append_flatten {pieces : List (List UInt8)} (h : ∀ q ∈ pieces, Begins q)
    (p : List UInt8) : lossy (p ++ pieces.flatten) = lossy p ++ pieces.flatMap lossy := by
  induction pieces generalizing p with
  | nil => simp
  | cons q pieces ih =>
      have hrest : ∀ q ∈ pieces, Begins q := fun q hq => h q (List.mem_cons_of_mem _ hq)
      rw [List.flatten_cons, ← List.append_assoc, ih hrest, List.flatMap_cons,
        lossy_append_of_begins (h q List.mem_cons_self), List.append_assoc]

/-- **When the pieces of a text read as the text**, from the byte `k` on: just when each of
them begins with a character's first byte. -/
theorem flatMap_lossy_iff {pieces : List (List UInt8)} {k : Nat} {text : List Char}
    (h : pieces.flatten = (utf8 text).drop k) :
    pieces.flatMap lossy = charsFrom k text ↔ ∀ p ∈ pieces, Begins p := by
  constructor
  · intro heq p hp
    by_contra hnot
    obtain ⟨before, after, rfl⟩ := List.append_of_mem hp
    have hbefore := countP_flatten_le before
    have hafter := countP_flatten_le after
    have hlt := countP_lt_length_lossy hnot
    have hcount := congrArg (List.countP isFirst) h
    have hlength := congrArg List.length heq
    rw [countP_drop_utf8, List.flatten_append, List.flatten_cons, List.countP_append,
      List.countP_append] at hcount
    rw [List.flatMap_append, List.flatMap_cons, List.length_append, List.length_append] at hlength
    omega
  · intro hbegins
    have hdrop := drop_utf8 (h ▸ begins_flatten hbegins)
    exact flatMap_lossy_of_begins (h.trans hdrop) hbegins

end Foundation
