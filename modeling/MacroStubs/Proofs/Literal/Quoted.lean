import MacroStubs.Proofs.Literal.Numeral
import MacroStubs.Proofs.Literal.Quotation
import MacroStubs.Text.Quoted
import Mathlib.Data.List.Basic

/-! # Quoted texts read back

A text or bytes between quotes are read as one quotation, which denotes them: each character is written
by a piece that neither ends the quotation nor denotes anything else.
-/

namespace MacroStubs.Literal
open Number Text

variable {bytes : Bool} {quote c : Char} {piece piece' rest : List Char} {codes codes' : List Nat}

/-- Whether a piece within quotes stands for these codes. -/
structure Writes (bytes : Bool) (quote : Char) (piece : List Char) (codes : List Nat) : Prop where
  body : ∀ rest, body? quote false (piece ++ rest) =
    (body? quote false rest).map fun (cs, r) => (piece ++ cs, r)
  codes : ∀ rest ns, (∀ n, rest.length ≤ n → codes? bytes false n rest = some ns) →
    ∀ n, (piece ++ rest).length ≤ n → codes? bytes false n (piece ++ rest) = some (codes ++ ns)

namespace Writes

theorem nil : Writes bytes quote [] [] where
  body rest := by simp
  codes rest ns h := h

theorem append (h : Writes bytes quote piece codes) (h' : Writes bytes quote piece' codes') :
    Writes bytes quote (piece ++ piece') (codes ++ codes') where
  body rest := by
    rw [List.append_assoc, h.body, h'.body, Option.map_map]
    simp [Function.comp_def]
  codes rest ns hrest n hn := by
    rw [List.append_assoc] at hn ⊢
    rw [h.codes _ _ (h'.codes rest ns hrest) n hn, List.append_assoc]

theorem flatMap {α : Type} {piece : α → List Char} {code : α → Nat} {xs : List α}
    (h : ∀ x ∈ xs, Writes bytes quote (piece x) [code x]) :
    Writes bytes quote (xs.flatMap piece) (xs.map code) := by
  induction xs with
  | nil => exact nil
  | cons x xs ih =>
    obtain ⟨hx, hxs⟩ := List.forall_mem_cons.mp h
    exact hx.append (ih hxs)

/-- A plain character stands for itself. -/
theorem plain (hslash : c ≠ '\\') (hquote : c ≠ quote) (hline : c ≠ '\n') :
    Writes bytes quote [c] [c.toNat] where
  body rest := by
    rw [List.singleton_append, body?.eq_def]
    split
    · simp_all
    · simp_all
    · rename_i heq
      obtain ⟨rfl, rfl⟩ := List.cons.inj heq
      rw [if_neg hquote, if_neg fun h => hline h.1]
      rfl
  codes rest ns hrest n hn := by
    cases n with
    | zero => simp at hn
    | succ n =>
      simp [codes?, hslash, hrest n (by simpa using hn)]

/-- An escape stands for what it denotes, if nothing in it ends the quotation. -/
theorem escaped {ds : List Char} (hplain : ∀ d ∈ ds, d ≠ '\\' ∧ d ≠ quote ∧ d ≠ '\n')
    (h : ∀ rest, escape? bytes (c :: ds ++ rest) = some (codes, rest)) :
    Writes bytes quote ('\\' :: c :: ds) codes where
  body rest := by
    have hds : Writes bytes quote ds (ds.map Char.toNat) := by
      have hflat : Writes bytes quote (ds.flatMap ([·])) (ds.map Char.toNat) :=
        flatMap fun d hd => plain (hplain d hd).1 (hplain d hd).2.1 (hplain d hd).2.2
      simpa using hflat
    simp [body?, hds.body, Function.comp_def]
  codes rest ns hrest n hn := by
    cases n with
    | zero => simp at hn
    | succ n =>
      rw [List.cons_append, List.cons_append, List.length_cons, List.length_cons, List.length_append] at hn
      have hrest := hrest n (by omega)
      rw [List.cons_append, codes?, if_pos ⟨rfl, Bool.false_ne_true⟩, h]
      simp [hrest]

end Writes

section Hexadecimal

theorem length_hexDigits (width n : Nat) : (hexDigits width n).length = width := by
  induction width generalizing n with
  | zero => rfl
  | succ width ih => rw [hexDigits, List.length_append, ih]; rfl

theorem hexDigit_spec {k : Nat} (hk : k < 16) : isHexDigit (hexDigit k) = true ∧ digitOf (hexDigit k) = k ∧
    hexDigit k ∉ ['\\', '\'', '"', '\n'] := by
  have hdigit : ∀ k : Fin 16, isHexDigit (hexDigit k) = true ∧ digitOf (hexDigit k) = k ∧
    hexDigit k ∉ ['\\', '\'', '"', '\n'] := by decide
  exact hdigit ⟨k, hk⟩

theorem mem_hexDigits {width n : Nat} (hc : c ∈ hexDigits width n) : ∃ k < 16, c = hexDigit k := by
  induction width generalizing n with
  | zero => cases hc
  | succ width ih =>
    rw [hexDigits, List.mem_append, List.mem_singleton] at hc
    exact hc.elim ih fun hc => ⟨n % 16, Nat.mod_lt n (by decide), hc⟩

theorem natOfBase_hexDigits (width n : Nat) : natOfBase 16 (hexDigits width n) = n % 16 ^ width := by
  induction width generalizing n with
  | zero => simp [hexDigits, natOfBase, Nat.mod_one]
  | succ width ih =>
    have hlast : natOfBase 16 (hexDigits width (n / 16) ++ [hexDigit (n % 16)]) =
        16 * natOfBase 16 (hexDigits width (n / 16)) + digitOf (hexDigit (n % 16)) := by
      rw [natOfBase, List.foldl_append]
      rfl
    rw [hexDigits, hlast, ih, (hexDigit_spec (Nat.mod_lt n (by decide))).2.1, Nat.pow_succ',
      Nat.mod_mul, Nat.add_comm]

/-- The hexadecimal digits of a number are read as it. -/
theorem hexNumber?_hexDigits (width : Nat) {n : Nat} (hn : n < 16 ^ width) (rest : List Char) :
    hexNumber? width (hexDigits width n ++ rest) = some (n, rest) := by
  have hall : (hexDigits width n).all isHexDigit = true := by
    rw [List.all_eq_true]
    intro c hc
    obtain ⟨k, hk, rfl⟩ := mem_hexDigits hc
    exact (hexDigit_spec hk).1
  have htake : (hexDigits width n ++ rest).take width = hexDigits width n :=
    List.take_left' (length_hexDigits width n)
  have hdrop : (hexDigits width n ++ rest).drop width = rest :=
    List.drop_left' (length_hexDigits width n)
  simp only [hexNumber?, htake, hdrop, length_hexDigits, hall, natOfBase_hexDigits,
    Nat.mod_eq_of_lt hn]
  rfl

end Hexadecimal

theorem toNat_ofNat_byte (b : UInt8) : (Char.ofNat b.toNat).toNat = b.toNat := by
  have hb : b.toNat < 256 := b.toNat_lt
  have hvalid : b.toNat.isValidChar := .inl (by omega)
  rw [Char.ofNat, dif_pos hvalid]
  rfl

namespace Writes

theorem hexadecimal (hq : IsQuote quote) {mark : Char} {width n : Nat}
    (h : ∀ rest, escape? bytes (mark :: hexDigits width n ++ rest) = some ([n], rest)) :
    Writes bytes quote ('\\' :: mark :: hexDigits width n) [n] := by
  refine escaped (fun d hd => ?_) h
  obtain ⟨k, hk, rfl⟩ := mem_hexDigits hd
  have hplain := (hexDigit_spec hk).2.2
  simp only [List.mem_cons, List.not_mem_nil, or_false, not_or] at hplain
  obtain ⟨hslash, h₁, h₂, hline⟩ := hplain
  exact ⟨hslash, by rcases hq with rfl | rfl <;> assumption, hline⟩

/-- An escape of one letter. -/
theorem simple {n : Nat} (hline : c ≠ '\n') (h : simpleEscape? c = some n) :
    Writes bytes quote ['\\', c] [n] :=
  escaped nofun fun rest => by simp [escape?, hline, h]

theorem quotedChar (hq : IsQuote quote) (c : Char) :
    Writes false quote (quotedChar quote c) [c.toNat] := by
  rw [Text.quotedChar]
  split
  · rename_i hc
    rcases hq with rfl | rfl <;> rcases hc with rfl | rfl <;> exact simple (by decide) rfl
  rename_i hc
  obtain ⟨hcq, hcs⟩ := not_or.mp hc
  split
  · rename_i hc
    exact hc ▸ simple (by decide) rfl
  split
  · rename_i hc
    exact hc ▸ simple (by decide) rfl
  split
  · rename_i hc
    exact hc ▸ simple (by decide) rfl
  split
  · exact plain hcs hcq ‹_›
  split
  · rename_i hn
    exact hexadecimal hq fun rest => by
      simp [escape?, simpleEscape?, isOctalDigit, hexNumber?_hexDigits 2 hn]
  split
  · rename_i hn
    exact hexadecimal hq fun rest => by
      simp [escape?, simpleEscape?, isOctalDigit, hexNumber?_hexDigits 4 hn]
  · have hmax : c.toNat ≤ 0x10ffff := by
      have hvalid : c.toNat.isValidChar := c.valid
      rw [Nat.isValidChar] at hvalid
      omega
    have hn : c.toNat < 16 ^ 8 := by omega
    exact hexadecimal hq fun rest => by
      simp [escape?, simpleEscape?, isOctalDigit, hexNumber?_hexDigits 8 hn, hmax]

theorem quotedByte (hq : IsQuote quote) (b : UInt8) :
    Writes true quote (quotedByte quote b) [b.toNat] := by
  have hb : b.toNat < 256 := b.toNat_lt
  have hcode := toNat_ofNat_byte b
  rw [Text.quotedByte]
  generalize Char.ofNat b.toNat = c at hcode
  rw [← hcode] at hb ⊢
  split
  · rename_i hc
    rcases hq with rfl | rfl <;> rcases hc with rfl | rfl <;> exact simple (by decide) rfl
  rename_i hc
  obtain ⟨hcq, hcs⟩ := not_or.mp hc
  split
  · rename_i hc
    exact hc ▸ simple (by decide) rfl
  split
  · rename_i hc
    exact hc ▸ simple (by decide) rfl
  split
  · rename_i hc
    exact hc ▸ simple (by decide) rfl
  split
  · exact plain hcs hcq ‹_›
  · exact hexadecimal hq fun rest => by
      simp [escape?, simpleEscape?, isOctalDigit, hexNumber?_hexDigits 2 hb]

end Writes

variable {cs : List Char} {mark : Mark}

theorem body?_of_quote (hslash : quote ≠ '\\') (rest : List Char) :
    body? quote false (quote :: rest) = some ([], rest) := by
  rw [body?.eq_def]
  split
  · cases ‹_ :: _ = []›
  · rename_i heq
    exact absurd (List.cons.inj heq).1 hslash
  · rename_i heq
    obtain ⟨rfl, rfl⟩ := List.cons.inj heq
    rw [if_pos rfl]
    rfl

/-- What is written between quotes does not begin with the quote. -/
theorem Writes.head_ne (h : Writes bytes quote (c :: piece) codes) (hslash : quote ≠ '\\') :
    c ≠ quote := by
  rintro rfl
  have hbody := h.body []
  rw [List.cons_append, body?_of_quote hslash, body?, Option.map_none] at hbody
  cases hbody

/-- What is written between quotes is one quotation. -/
theorem Quotation.read?_of_writes (hm : mark? cs = some (mark, quote :: (piece ++ quote :: rest)))
    (h : Writes bytes quote piece codes) (hslash : quote ≠ '\\') (hhead : rest.head? ≠ some quote) :
    Quotation.read? cs = some ({ mark, inner := piece }, rest) := by
  have hbody := h.body (quote :: rest)
  rw [body?_of_quote hslash, Option.map_some] at hbody
  dsimp only at hbody
  rw [List.append_nil] at hbody
  rw [Quotation.read?, hm, Option.bind_eq_bind, Option.bind_some]
  cases piece with
  | nil =>
    rw [List.nil_append] at hbody ⊢
    cases rest with
    | nil => simp [hbody]
    | cons d rest =>
      have hd : d ≠ quote := fun h => hhead (congrArg some h)
      simp [hd, hbody]
  | cons c piece =>
    obtain ⟨d, more, hmore⟩ : ∃ d more, piece ++ quote :: rest = d :: more := by
      cases piece <;> exact ⟨_, _, rfl⟩
    rw [List.cons_append, hmore] at hbody ⊢
    simp [h.head_ne hslash, hbody]

/-- A quotation denotes the codes that it was written for. -/
theorem Quotation.codes?_of_writes (mark : Mark) (h : Writes mark.bytes quote piece codes)
    (hraw : mark.raw = false)
    (hascii : mark.bytes = true → ∀ c ∈ piece, c.toNat < 128) :
    Quotation.codes? { mark, inner := piece } = some codes := by
  have hcodes := h.codes [] [] (fun n _ => by cases n <;> rfl) piece.length (by simp)
  rw [List.append_nil, List.append_nil] at hcodes
  have hplain : (mark.bytes && piece.any fun c => decide (128 ≤ c.toNat)) = false := by
    cases hb : mark.bytes with
    | false => rfl
    | true =>
      rw [Bool.true_and, List.any_eq_false]
      intro c hc
      have := hascii hb c hc
      simp
      omega
  simp [Quotation.codes?, hplain, hraw, hcodes]

theorem isQuote_quoteFor (cs : List Char) : IsQuote (quoteFor cs) := by
  rw [quoteFor]
  split
  · exact .inl rfl
  · exact .inr rfl

theorem IsQuote.ne_slash (hq : IsQuote quote) : quote ≠ '\\' := by
  rcases hq with rfl | rfl <;> decide

theorem Ends.head_ne (h : Ends rest) (hq : IsQuote quote) : rest.head? ≠ some quote := by
  intro hc
  have := h quote hc
  rcases hq with rfl | rfl <;> exact absurd this (by decide)

/-- A quoted text is one quotation, which denotes the text. -/
theorem quoted_spec (cs : List Char) : ∃ q,
    (∀ rest, Ends rest → Quotation.read? (Text.quoted cs ++ rest) = some (q, rest)) ∧
      q.mark.formatted = false ∧ joined? [q] = some (.str (String.ofList cs)) := by
  have hq := isQuote_quoteFor cs
  have hwrites : Writes false (quoteFor cs) (cs.flatMap (quotedChar (quoteFor cs))) (cs.map Char.toNat) :=
    .flatMap fun c _ => .quotedChar hq c
  have hcodes := Quotation.codes?_of_writes {} hwrites rfl nofun
  refine ⟨{ mark := {}, inner := cs.flatMap (quotedChar (quoteFor cs)) }, fun rest h =>
    Quotation.read?_of_writes ?_ hwrites hq.ne_slash (h.head_ne hq), rfl, ?_⟩
  · rw [Text.quoted, List.cons_append, List.cons_append, List.append_assoc, mark?_of_quote hq]
    rfl
  · simp [joined?, hcodes, charOf_toNat, Function.comp_def]

/-- Whether all characters of a text are beyond the control characters of ASCII. -/
def IsClean (cs : List Char) : Prop := ∀ c ∈ cs, 32 ≤ c.toNat

theorem isClean_of_all (h : (cs.all fun c => decide (32 ≤ c.toNat)) = true) : IsClean cs :=
  List.all_iff_forall_prop.mp h

/-- Escapes are printable ASCII. -/
theorem toNat_escape {d : Char} (hd : 32 ≤ d.toNat ∧ d.toNat < 128) (width n : Nat) :
    ∀ c ∈ '\\' :: d :: hexDigits width n, 32 ≤ c.toNat ∧ c.toNat < 128 := by
  have hdigit : ∀ k : Fin 16, 32 ≤ (hexDigit k).toNat ∧ (hexDigit k).toNat < 128 := by decide
  refine List.forall_mem_cons.mpr ⟨by decide, List.forall_mem_cons.mpr ⟨hd, fun c hc => ?_⟩⟩
  obtain ⟨k, hk, rfl⟩ := mem_hexDigits hc
  exact hdigit ⟨k, hk⟩

theorem toNat_quotedChar (hq : IsQuote quote) (d : Char) :
    ∀ c ∈ Text.quotedChar quote d, 32 ≤ c.toNat := by
  rw [Text.quotedChar]
  split
  · rename_i hd
    have hd' : 32 ≤ d.toNat ∧ d.toNat < 128 := by
      rcases hq with rfl | rfl <;> rcases hd with rfl | rfl <;> decide
    exact fun c hc => (toNat_escape hd' 0 0 c hc).1
  split
  · exact fun c hc => (toNat_escape (d := 't') (by decide) 0 0 c hc).1
  split
  · exact fun c hc => (toNat_escape (d := 'n') (by decide) 0 0 c hc).1
  split
  · exact fun c hc => (toNat_escape (d := 'r') (by decide) 0 0 c hc).1
  split
  · rename_i hprintable
    have hd : 32 ≤ d.toNat := by
      rw [isPrintable] at hprintable
      split at hprintable
      · exact of_decide_eq_true hprintable
      · omega
    exact fun c hc => List.mem_singleton.mp hc ▸ hd
  split
  · exact fun c hc => (toNat_escape (by decide) 2 _ c hc).1
  split
  · exact fun c hc => (toNat_escape (by decide) 4 _ c hc).1
  · exact fun c hc => (toNat_escape (by decide) 8 _ c hc).1

theorem toNat_quotedByte (hq : IsQuote quote) (b : UInt8) :
    ∀ c ∈ Text.quotedByte quote b, 32 ≤ c.toNat ∧ c.toNat < 128 := by
  have hcode : (Char.ofNat b.toNat).toNat = b.toNat := toNat_ofNat_byte b
  rw [Text.quotedByte]
  generalize Char.ofNat b.toNat = d at hcode
  rw [← hcode]
  split
  · rename_i hd
    have hd' : 32 ≤ d.toNat ∧ d.toNat < 128 := by
      rcases hq with rfl | rfl <;> rcases hd with rfl | rfl <;> decide
    exact toNat_escape hd' 0 0
  split
  · exact toNat_escape (d := 't') (by decide) 0 0
  split
  · exact toNat_escape (d := 'n') (by decide) 0 0
  split
  · exact toNat_escape (d := 'r') (by decide) 0 0
  split
  · rename_i hd
    intro c hc
    rw [List.mem_singleton.mp hc]
    omega
  · exact toNat_escape (by decide) 2 _

theorem isClean_quoted (cs : List Char) : IsClean (Text.quoted cs) := by
  have hq := isQuote_quoteFor cs
  have hquote : 32 ≤ (quoteFor cs).toNat := by rcases hq with h | h <;> rw [h] <;> decide
  intro c hc
  rw [Text.quoted] at hc
  simp only [List.cons_append, List.mem_cons, List.mem_append, List.mem_flatMap, List.not_mem_nil,
    or_false] at hc
  rcases hc with rfl | ⟨d, -, hc⟩ | rfl
  · exact hquote
  · exact toNat_quotedChar hq d c hc
  · exact hquote

theorem isClean_quotedBytes (data : List UInt8) : IsClean (quotedBytes data) := by
  have hq := isQuote_quoteFor (data.map fun b => Char.ofNat b.toNat)
  intro c hc
  rw [quotedBytes] at hc
  generalize quoteFor (data.map fun b => Char.ofNat b.toNat) = quote at *
  have hquote : 32 ≤ quote.toNat := by rcases hq with h | h <;> rw [h] <;> decide
  simp only [List.cons_append, List.mem_cons, List.mem_append, List.mem_flatMap, List.not_mem_nil,
    or_false] at hc
  rcases hc with rfl | rfl | ⟨b, -, hc⟩ | rfl
  · decide
  · exact hquote
  · exact (toNat_quotedByte hq b c hc).1
  · exact hquote

/-- Quoted bytes are one quotation, which denotes the bytes. -/
theorem quotedBytes_spec (data : List UInt8) : ∃ q,
    (∀ rest, Ends rest → Quotation.read? (quotedBytes data ++ rest) = some (q, rest)) ∧
      q.mark.formatted = false ∧ joined? [q] = some (.bytes data) := by
  have hq := isQuote_quoteFor (data.map fun b => Char.ofNat b.toNat)
  rw [quotedBytes]
  generalize quoteFor (data.map fun b => Char.ofNat b.toNat) = quote at *
  have hwrites : Writes true quote (data.flatMap (quotedByte quote)) (data.map UInt8.toNat) :=
    .flatMap fun b _ => .quotedByte hq b
  have hascii : ∀ c ∈ data.flatMap (quotedByte quote), c.toNat < 128 := by
    intro c hc
    obtain ⟨b, -, hc⟩ := List.mem_flatMap.mp hc
    exact (toNat_quotedByte hq b c hc).2
  have hcodes := Quotation.codes?_of_writes { bytes := true } hwrites rfl fun _ => hascii
  refine ⟨{ mark := { bytes := true }, inner := data.flatMap (quotedByte quote) }, fun rest h =>
    Quotation.read?_of_writes ?_ hwrites hq.ne_slash (h.head_ne hq), rfl, ?_⟩
  · rcases hq with rfl | rfl <;> simp [mark?, Mark.ofLetters?]
  · simp [joined?, hcodes, Function.comp_def]

end MacroStubs.Literal
