import MacroStubs.Proofs.Literal.Breaking
import MacroStubs.Proofs.Literal.PrintedNumber
import MacroStubs.Proofs.Outcome

/-! # Printed values

The printed form of a value that holds data and objects only either spells an expression or breaks off at the
first object. The expression denotes the value if this is plain data through and through, and nothing if not.
-/

namespace MacroStubs

namespace Value
open Literal

variable {labels : Labels} {depth : Nat} {v : Value} {text : List Char}

section Kinds

variable (labels)

/-- Whether a value is of a kind whose printed form is an expression. -/
def isDatumPart : Value → Bool
  | null => true
  | bool _ => true
  | int _ => true
  | float _ => true
  | complex .. => true
  | str _ => true
  | bytes _ => true
  | bytearray _ => true
  | list _ => true
  | tuple _ => true
  | set _ => true
  | frozenset _ => true
  | dict _ => true
  | mappingproxy _ => true
  | range .. => true
  | ellipsis => true
  | _ => false

/-- Whether a value is an object whose printed form, if it has one, begins with `<`. -/
def isObjectPart : Value → Bool
  | mapping _ => true
  | custom (str s) => s.toList.head? == some '<'
  | custom _ => true
  | raising _ => true
  | function .. => true
  | wrapped .. => true
  | native _ => true
  | builtin _ => true
  | staticMethod .. => true
  | classMethod .. => true
  | property .. => true
  | bound .. => true
  | member .. => true
  | memberOf .. => true
  | cls _ => true
  | objectRef id => (labels.objectText (objectRef id)).toOption.all (·.head? == some '<')
  | fresh c => (labels.objectText (fresh c)).toOption.all (·.head? == some '<')
  | moduleRef _ => true
  | callRecord .. => true
  | anonymous _ => true
  | missing => true
  | _ => false

end Kinds

/-- An object is printed between angle brackets. -/
theorem head?_of_print (hv : v.isObjectPart labels = true) (h : print labels depth v = .ok text) :
    text.head? = some '<' := by
  have hplain {t : List Char} (ht : t.head? = some '<')
      (h : (pure t : Except Failure (List Char)) = .ok text) :
      text.head? = some '<' := by
    rw [← pure_eq_ok.mp h, ht]
  have htext {e : Except Failure (List Char)} (he : e.toOption.all (·.head? == some '<') = true)
      (h : e = .ok text) : text.head? = some '<' := by
    rw [h] at he
    exact beq_iff_eq.mp he
  cases v with
  | mapping _ => exact hplain rfl h
  | custom printed =>
    cases printed with
    | str s =>
      rw [print] at h
      exact hplain (beq_iff_eq.mp hv) h
    | _ => cases h
  | raising _ => cases h
  | function | wrapped | native | builtin | property | member | memberOf | cls | moduleRef | callRecord
  | anonymous | missing =>
    rw [print] at h
    exact hplain (by simp [functionText, memberText, toString]) h
  | objectRef | fresh =>
    rw [print] at h
    exact htext hv h
  | staticMethod | classMethod | bound =>
    cases depth with
    | zero =>
      rw [print] at h
      cases h
    | succ depth =>
      rw [print] at h
      obtain ⟨piece, -, h⟩ := bind_eq_ok.mp h
      exact hplain (by simp [bracketed, toString]) h
  | _ => cases hv

section Values

variable {vs : List Value} {es : List Expression}

theorem isLiteral_list (vs : List Value) : (list vs).isLiteral = vs.all isLiteral := everyItem_eq vs

theorem isLiteral_tuple (vs : List Value) : (tuple vs).isLiteral = vs.all isLiteral := everyItem_eq vs

theorem isLiteral_set (vs : List Value) : (set vs).isLiteral = vs.all isLiteral := everyItem_eq vs

theorem isLiteral_dict (entries : List (Value × Value)) :
    (dict entries).isLiteral = entries.all fun e => e.1.isLiteral && e.2.isLiteral := by
  have hentries : (dict entries).isLiteral = (entries.flatMap fun e => [e.1, e.2]).all isLiteral :=
    everyEntry_eq entries
  rw [hentries, List.all_flatMap]
  simp

/-- Whether an expression denotes what is read back of a value. -/
def IsRead (v : Value) (e : Expression) : Prop := e.value? = denoted v.isLiteral v.reread

theorem values?_eq (h : List.Forall₂ IsRead vs es) : Expression.values? es =
    if vs.all isLiteral then .ok (vs.map reread) else .error .malformed := by
  induction h with
  | nil => rfl
  | @cons v e vs es hv _ ih =>
    rw [Expression.values?, hv, ih, List.all_cons]
    cases v.isLiteral <;> cases vs.all isLiteral <;> rfl

theorem keys?_eq (h : List.Forall₂ IsRead vs es) (hkeys : ∀ v ∈ vs, v.isHashable = true) :
    Expression.keys? es = if vs.all isLiteral then .ok (vs.map reread) else .error .malformed := by
  induction h with
  | nil => rfl
  | @cons v e vs es hv _ ih =>
    obtain ⟨hkey, hkeys⟩ := List.forall_mem_cons.mp hkeys
    rw [← isHashable_reread] at hkey
    rw [Expression.keys?, hv, ih hkeys, List.all_cons]
    cases v.isLiteral with
    | false => rfl
    | true =>
      cases vs.all isLiteral <;> simp [denoted, hkey, bind, Except.bind, pure, Except.pure]

theorem entries?_eq {entries : List (Value × Value)} {es : List (Expression × Expression)}
    (h : List.Forall₂ (fun d e => IsRead d.1 e.1 ∧ IsRead d.2 e.2) entries es)
    (hkeys : ∀ d ∈ entries, d.1.isHashable = true) : Expression.entries? es =
      if entries.all (fun d => d.1.isLiteral && d.2.isLiteral) then
        .ok (entries.map fun d => (d.1.reread, d.2.reread))
      else .error .malformed := by
  induction h with
  | nil => rfl
  | @cons d e entries es hd _ ih =>
    obtain ⟨hkey, hkeys⟩ := List.forall_mem_cons.mp hkeys
    obtain ⟨hk, hv⟩ := hd
    rw [← isHashable_reread] at hkey
    obtain ⟨k, e⟩ := e
    rw [Expression.entries?, hk, hv, ih hkeys, List.all_cons]
    cases d.1.isLiteral with
    | false => rfl
    | true =>
      cases d.2.isLiteral with
      | false => rfl
      | true =>
        cases entries.all (fun d => d.1.isLiteral && d.2.isLiteral) <;>
          simp [denoted, hkey, bind, Except.bind, pure, Except.pure]

end Values

section Containers

/-- Whether a text breaks off where an item should stand. -/
def Broken (text : List Char) : Prop :=
  ∃ pre ps junk, text = pre ++ '<' :: junk ∧ Breaks pre ps

theorem Broken.append (h : Broken text) (tail : List Char) : Broken (text ++ tail) := by
  obtain ⟨pre, ps, junk, rfl, hb⟩ := h
  exact ⟨pre, ps, junk ++ tail, by rw [List.append_assoc, List.cons_append], hb⟩

theorem broken_of_head? (h : text.head? = some '<') : Broken text := by
  obtain ⟨junk, rfl⟩ := List.head?_eq_some_iff.mp h
  exact ⟨[], [], junk, rfl, breaks_nil⟩

theorem Broken.called (h : Broken text) (word : List Char) (hw : word ∈ printedNames) :
    Broken (word ++ '(' :: text) := by
  obtain ⟨pre, ps, junk, rfl, hb⟩ := h
  exact ⟨_, _, junk, by simp, hb.called word hw⟩

/-- What is known of the printed form of a value: it spells an expression for what is read back, or it breaks
off because the value is no plain data. -/
inductive Written (v : Value) (text : List Char) : Prop
  | spelled {ts : List Token} {e : Expression} (h : Spells (2 * v.nesting + 1) text ts e) (he : v.IsRead e)
  | broken (hv : v.isLiteral = false) (h : Broken text)

variable {vs : List Value} {pieces : List (List Char)} {m : Nat}

/-- Items are written one by one, up to the first that breaks off. -/
theorem spellAll_or_broken (h : List.Forall₂ Written vs pieces) (hm : ∀ v ∈ vs, v.nesting < m) :
    (∃ items, SpellAll (2 * m - 1) pieces items ∧ List.Forall₂ IsRead vs (items.map (·.2))) ∨
      vs.all isLiteral = false ∧ ∃ goods items text later, pieces = goods ++ text :: later ∧
        SpellAll (2 * m - 1) goods items ∧ Broken text := by
  induction h with
  | nil => exact .inl ⟨[], .nil, .nil⟩
  | @cons v text vs pieces hv _ ih =>
    obtain ⟨hlt, hm⟩ := List.forall_mem_cons.mp hm
    cases hv with
    | broken hv htext =>
      exact .inr ⟨by rw [List.all_cons, hv, Bool.false_and], [], [], text, pieces, rfl, .nil, htext⟩
    | @spelled ts e h he =>
      have h : Spells (2 * m - 1) text ts e := h.mono (by omega)
      rcases ih hm with ⟨items, hitems, hread⟩ | ⟨hvs, goods, items, bad, later, rfl, hitems, hbad⟩
      · exact .inl ⟨(ts, e) :: items, .cons h hitems, .cons he hread⟩
      · exact .inr ⟨by rw [List.all_cons, hvs, Bool.and_false], text :: goods, (ts, e) :: items, bad, later,
          rfl, .cons h hitems, hbad⟩

/-- Items break off within a bracket as soon as one of them does. -/
theorem broken_of_items {level : Nat} {o : Char} (ho : o ∈ ['(', '[', '\x7b'])
    {goods later : List (List Char)} {items : List (List Token × Expression)} (h : SpellAll level goods items)
    (hb : Broken text) : Broken (o :: commas (goods ++ text :: later)) := by
  obtain ⟨pre, ps, junk, rfl, hb⟩ := hb
  obtain ⟨more, hmore⟩ := commas_append goods pre ('<' :: junk) later
  exact ⟨_, _, junk ++ more, by rw [hmore]; simp, hb.enclosed ho h⟩

theorem written_list (h : List.Forall₂ Written vs pieces) : Written (list vs) (bracketed "[" "]" pieces) := by
  have htext : bracketed "[" "]" pieces = '[' :: commas pieces ++ [']'] := rfl
  have hm : ∀ v ∈ vs, v.nesting < (list vs).nesting := fun v hv => nesting_lt_of_mem_contents hv
  rw [htext]
  rcases spellAll_or_broken h hm with
    ⟨items, hitems, hread⟩ | ⟨hvs, goods, items, text, later, rfl, hitems, hb⟩
  · refine .spelled ((spells_list hitems).mono (by omega)) ?_
    rw [IsRead, Expression.value?, values?_eq hread, isLiteral_list, reread, rereadItems_eq]
    cases vs.all isLiteral <;> rfl
  · exact .broken ((isLiteral_list vs).trans hvs) ((broken_of_items (by decide) hitems hb).append _)

theorem written_tuple (h : List.Forall₂ Written vs pieces) : Written (tuple vs) (tupleText pieces) := by
  have hm : ∀ v ∈ vs, v.nesting < (tuple vs).nesting := fun v hv => nesting_lt_of_mem_contents hv
  have htext : ∃ tail, tupleText pieces = '(' :: commas pieces ++ tail := by
    rcases pieces with _ | ⟨first, _ | ⟨second, later⟩⟩
    · exact ⟨_, rfl⟩
    · exact ⟨_, rfl⟩
    · exact ⟨_, rfl⟩
  rcases spellAll_or_broken h hm with
    ⟨items, hitems, hread⟩ | ⟨hvs, goods, items, text, later, rfl, hitems, hb⟩
  · have hvalue : IsRead (tuple vs) (.tuple (items.map (·.2))) := by
      rw [IsRead, Expression.value?, values?_eq hread, isLiteral_tuple, reread, rereadItems_eq]
      cases vs.all isLiteral <;> rfl
    have hlength := hitems.length_eq
    by_cases hone : items.length = 1
    · obtain ⟨p, rfl⟩ := List.length_eq_one_iff.mp hone
      obtain ⟨piece, rfl⟩ := List.length_eq_one_iff.mp (hlength.trans hone)
      have htext : tupleText [piece] = '(' :: (piece ++ [',']) ++ [')'] := by simp [tupleText]
      obtain ⟨hp, -⟩ := List.forall₂_cons.mp hitems
      rw [htext]
      exact .spelled ((spells_single hp).mono (by omega)) hvalue
    · have htext : tupleText pieces = '(' :: commas pieces ++ [')'] := by
        rcases pieces with _ | ⟨first, _ | ⟨second, later⟩⟩
        · rfl
        · exact absurd hlength.symm hone
        · rfl
      rw [htext]
      exact .spelled ((spells_tuple hitems hone).mono (by omega)) hvalue
  · obtain ⟨tail, htext⟩ := htext
    rw [htext]
    exact .broken ((isLiteral_tuple vs).trans hvs) ((broken_of_items (by decide) hitems hb).append _)

/-- The items of a set or a frozen set between curly brackets. -/
theorem spells_or_broken_braces (h : List.Forall₂ Written vs pieces) (hne : vs ≠ [])
    (hm : ∀ v ∈ vs, v.nesting < m) :
    (∃ ts es, Spells (2 * m) ('\x7b' :: commas pieces ++ ['\x7d']) ts (.set es) ∧ List.Forall₂ IsRead vs es) ∨
      vs.all isLiteral = false ∧ Broken ('\x7b' :: commas pieces ++ ['\x7d']) := by
  rcases spellAll_or_broken h hm with
    ⟨items, hitems, hread⟩ | ⟨hvs, goods, items, text, later, rfl, hitems, hb⟩
  · have hne : items ≠ [] := by
      rintro rfl
      rw [List.map_nil, List.forall₂_nil_right_iff] at hread
      exact hne hread
    obtain ⟨v, hv⟩ := List.exists_mem_of_ne_nil vs ‹_›
    have := hm v hv
    exact .inl ⟨_, _, (spells_set hitems hne).mono (by omega), hread⟩
  · exact .inr ⟨hvs, (broken_of_items (by decide) hitems hb).append _⟩

theorem written_set (h : List.Forall₂ Written vs pieces) (hne : vs ≠ [])
    (hkeys : vs.all isHashable = true) (hdistinct : isDistinct vs = true) :
    Written (set vs) (bracketed "\x7b" "\x7d" pieces) := by
  have htext : bracketed "\x7b" "\x7d" pieces = '\x7b' :: commas pieces ++ ['\x7d'] := rfl
  have hm : ∀ v ∈ vs, v.nesting < (set vs).nesting := fun v hv => nesting_lt_of_mem_contents hv
  rw [htext]
  rcases spells_or_broken_braces h hne hm with ⟨ts, es, hspells, hread⟩ | ⟨hvs, hb⟩
  · refine .spelled (hspells.mono (by omega)) ?_
    rw [IsRead, Expression.value?, keys?_eq hread (List.all_eq_true.mp hkeys), isLiteral_set, reread,
      rereadItems_eq]
    cases vs.all isLiteral with
    | false => rfl
    | true =>
      have hset := setOf_reread hkeys hdistinct
      simp [denoted, hset, bind, Except.bind, pure, Except.pure]
  · exact .broken ((isLiteral_set vs).trans hvs) hb

/-- A value in a call is no literal. -/
theorem isRead_other (hv : v.isLiteral = false) : IsRead v .other := by
  rw [IsRead, hv]
  rfl

theorem written_called (word : List Char) (hw : word ∈ printedNames) (hv : v.isLiteral = false)
    (h : (∃ ts e, Spells (2 * v.nesting) text ts e) ∨ Broken text) :
    Written v (word ++ '(' :: text ++ [')']) := by
  rcases h with ⟨ts, e, hspells⟩ | hb
  · have hcall := spells_call word hw (.cons (b := (ts, e)) hspells .nil) (List.cons_ne_nil _ _)
    exact .spelled hcall (isRead_other hv)
  · exact .broken hv ((hb.called word hw).append [')'])

theorem written_frozenset (h : List.Forall₂ Written vs pieces) (hne : vs ≠ []) :
    Written (frozenset vs) (bracketed "frozenset(\x7b" "\x7d)" pieces) := by
  have htext : bracketed "frozenset(\x7b" "\x7d)" pieces =
      "frozenset".toList ++ '(' :: ('\x7b' :: commas pieces ++ ['\x7d']) ++ [')'] := by
    simp [bracketed]
  have hm : ∀ v ∈ vs, v.nesting < (frozenset vs).nesting := fun v hv => nesting_lt_of_mem_contents hv
  rw [htext]
  refine written_called _ (by decide) rfl ((spells_or_broken_braces h hne hm).imp ?_ And.right)
  rintro ⟨ts, es, hspells, -⟩
  exact ⟨ts, _, hspells⟩

end Containers

section Entries

variable {entries : List (Value × Value)} {texts : List (List Char × List Char)} {m : Nat}

/-- Entries are written one by one, up to the first whose key or value breaks off. -/
theorem spellEntries_or_broken
    (h : List.Forall₂ (fun d p => Written d.1 p.1 ∧ Written d.2 p.2) entries texts)
    (hm : ∀ d ∈ entries, d.1.nesting < m ∧ d.2.nesting < m) :
    (∃ items, SpellEntries (2 * m - 1) texts items ∧
      List.Forall₂ (fun d e => IsRead d.1 e.1 ∧ IsRead d.2 e.2) entries (items.map Entry.expressions)) ∨
    entries.all (fun d => d.1.isLiteral && d.2.isLiteral) = false ∧ ∃ goods items pre ps junk later,
      texts.map entryText = goods.map entryText ++ (pre ++ '<' :: junk) :: later ∧
        SpellEntries (2 * m - 1) goods items ∧ BreaksEntry pre ps := by
  induction h with
  | nil => exact .inl ⟨[], .nil, .nil⟩
  | @cons d p entries texts hd _ ih =>
    obtain ⟨⟨hk, hv⟩, hm⟩ := List.forall_mem_cons.mp hm
    obtain ⟨hkey, hvalue⟩ := hd
    obtain ⟨key, text⟩ := p
    cases hkey with
    | broken hlit hb =>
      obtain ⟨pre, ps, junk, rfl, hb⟩ := hb
      refine .inr ⟨by rw [List.all_cons, hlit, Bool.false_and, Bool.false_and], [], [], pre, ps,
        junk ++ ':' :: ' ' :: text, texts.map entryText, by simp [entryText], .nil, hb.key⟩
    | @spelled ts e hkey hke =>
      have hkey : Spells (2 * m - 1) key ts e := hkey.mono (by omega)
      cases hvalue with
      | broken hlit hb =>
        obtain ⟨pre, ps, junk, rfl, hb⟩ := hb
        exact .inr ⟨by rw [List.all_cons, hlit, Bool.and_false, Bool.false_and], [], [], _, _, junk,
          texts.map entryText, by simp [entryText], .nil, hb.value hkey⟩
      | @spelled ts' e' hvalue hve =>
        have hvalue : Spells (2 * m - 1) text ts' e' := hvalue.mono (by omega)
        rcases ih hm with
          ⟨items, hitems, hread⟩ | ⟨hlit, goods, items, pre, ps, junk, later, htexts, hitems, hb⟩
        · exact .inl ⟨⟨(ts, e), (ts', e')⟩ :: items, .cons ⟨hkey, hvalue⟩ hitems, .cons ⟨hke, hve⟩ hread⟩
        · exact .inr ⟨by rw [List.all_cons, hlit, Bool.and_false], (key, text) :: goods,
            ⟨(ts, e), (ts', e')⟩ :: items, pre, ps, junk, later, by rw [List.map_cons, htexts]; rfl,
            .cons ⟨hkey, hvalue⟩ hitems, hb⟩

/-- The entries of a dictionary or a view of one between curly brackets. -/
theorem spells_or_broken_entries
    (h : List.Forall₂ (fun d p => Written d.1 p.1 ∧ Written d.2 p.2) entries texts) (hpos : 0 < m)
    (hm : ∀ w ∈ entries.flatMap fun d => [d.1, d.2], w.nesting < m) :
    (∃ ts es, Spells (2 * m) ('\x7b' :: commas (texts.map entryText) ++ ['\x7d']) ts (.dict es) ∧
      List.Forall₂ (fun d e => IsRead d.1 e.1 ∧ IsRead d.2 e.2) entries es) ∨
    entries.all (fun d => d.1.isLiteral && d.2.isLiteral) = false ∧
      Broken ('\x7b' :: commas (texts.map entryText) ++ ['\x7d']) := by
  have hm : ∀ d ∈ entries, d.1.nesting < m ∧ d.2.nesting < m := fun d hd =>
    ⟨hm _ (mem_contents_entries.mpr ⟨d, hd, .inl rfl⟩), hm _ (mem_contents_entries.mpr ⟨d, hd, .inr rfl⟩)⟩
  rcases spellEntries_or_broken h hm with
    ⟨items, hitems, hread⟩ | ⟨hlit, goods, items, pre, ps, junk, later, htexts, hitems, hb⟩
  · exact .inl ⟨_, _, (spells_dict hitems).mono (by omega), hread⟩
  · obtain ⟨more, hmore⟩ := commas_append (goods.map entryText) pre ('<' :: junk) later
    refine .inr ⟨hlit, _, _, junk ++ more ++ ['\x7d'], ?_, hb.enclosed hitems⟩
    rw [htexts, hmore]
    simp

theorem written_dict (h : List.Forall₂ (fun d p => Written d.1 p.1 ∧ Written d.2 p.2) entries texts)
    (hkeys : (entries.map (·.1)).all isHashable = true) (hdistinct : isDistinct (entries.map (·.1)) = true) :
    Written (dict entries) (bracketed "\x7b" "\x7d" (texts.map entryText)) := by
  have htext : bracketed "\x7b" "\x7d" (texts.map entryText) =
    '\x7b' :: commas (texts.map entryText) ++ ['\x7d'] := rfl
  have hm : ∀ w ∈ entries.flatMap fun d => [d.1, d.2], w.nesting < (dict entries).nesting :=
    fun w hw => nesting_lt_of_mem_contents hw
  have hpos : 0 < (dict entries).nesting := Nat.succ_pos _
  rw [htext]
  rcases spells_or_broken_entries h hpos hm with ⟨ts, es, hspells, hread⟩ | ⟨hlit, hb⟩
  · refine .spelled (hspells.mono (by omega)) ?_
    have hhash : ∀ d ∈ entries, d.1.isHashable = true := fun d hd =>
      List.all_eq_true.mp hkeys d.1 (List.mem_map_of_mem hd)
    rw [IsRead, Expression.value?, entries?_eq hread hhash, isLiteral_dict, reread, rereadEntries_eq]
    cases entries.all (fun d => d.1.isLiteral && d.2.isLiteral) with
    | false => rfl
    | true =>
      have hdict := dictOf_reread hkeys hdistinct
      simp [denoted, hdict, bind, Except.bind, pure, Except.pure]
  · exact .broken ((isLiteral_dict entries).trans hlit) hb

theorem written_mappingproxy (h : List.Forall₂ (fun d p => Written d.1 p.1 ∧ Written d.2 p.2) entries texts) :
    Written (mappingproxy entries) (bracketed "mappingproxy(\x7b" "\x7d)" (texts.map entryText)) := by
  have htext : bracketed "mappingproxy(\x7b" "\x7d)" (texts.map entryText) =
      "mappingproxy".toList ++ '(' :: ('\x7b' :: commas (texts.map entryText) ++ ['\x7d']) ++ [')'] := by
    simp [bracketed]
  have hm : ∀ w ∈ entries.flatMap fun d => [d.1, d.2], w.nesting < (mappingproxy entries).nesting :=
    fun w hw => nesting_lt_of_mem_contents hw
  have hpos : 0 < (mappingproxy entries).nesting := Nat.succ_pos _
  rw [htext]
  refine written_called _ (by decide) rfl ((spells_or_broken_entries h hpos hm).imp ?_ And.right)
  rintro ⟨ts, es, hspells, -⟩
  exact ⟨ts, _, hspells⟩

end Entries

section Leaves

/-- A text as it is written spells a constant. -/
theorem written_of_spells {ts : List Token} {e : Expression} (h : Spells 0 text ts e) (he : v.IsRead e) :
    Written v text := .spelled (h.mono (Nat.zero_le _)) he

theorem written_name {word : List Char} (hw : word ∈ printedNames) (hv : v.isLiteral = false) :
    Written v word := by
  refine written_of_spells (isTerm_name hw).plain.spells ?_
  rw [IsRead, hv]
  rfl

theorem written_str (s : String) : Written (str s) (Text.quoted s.toList) := by
  obtain ⟨q, hread, hformatted, hjoined⟩ := quoted_spec s.toList
  have hclean := isClean_quoted s.toList
  exact written_of_spells (spells_quotation (.inr (isQuote_quoteFor _)) hclean hread hformatted hjoined)
    (by rw [String.ofList_toList]; rfl)

theorem spells_bytes (data : List UInt8) :
    ∃ ts, Spells 0 (Text.quotedBytes data) ts (.constant (bytes data)) := by
  obtain ⟨q, hread, hformatted, hjoined⟩ := quotedBytes_spec data
  have hclean := isClean_quotedBytes data
  exact ⟨_, spells_quotation (.inl rfl) hclean hread hformatted hjoined⟩

theorem written_bytes (data : List UInt8) : Written (bytes data) (Text.quotedBytes data) := by
  obtain ⟨ts, h⟩ := spells_bytes data
  exact written_of_spells h rfl

theorem written_bytearray (data : List UInt8) :
    Written (bytearray data) ("bytearray(".toList ++ Text.quotedBytes data ++ [')']) := by
  obtain ⟨ts, h⟩ := spells_bytes data
  exact written_called "bytearray".toList (by decide) rfl (.inl ⟨ts, _, h⟩)

theorem spells_of_printInt {n : Int} (h : printInt n = .ok text) :
    ∃ ts e, Spells 0 text ts e ∧ e.value? = .ok (int n) := by
  rw [printInt] at h
  split at h
  · cases h
  · rw [← pure_eq_ok.mp h]
    exact spells_int (not_lt.mp ‹_›)

theorem spellAll_of_printInt {ns : List Int} {pieces : List (List Char)}
    (h : List.Forall₂ (fun n piece => printInt n = .ok piece) ns pieces) :
    ∃ items, SpellAll 0 pieces items ∧ items.length = ns.length := by
  induction h with
  | nil => exact ⟨[], .nil, rfl⟩
  | cons hn _ ih =>
    obtain ⟨ts, e, hspells, -⟩ := spells_of_printInt hn
    obtain ⟨items, hitems, hlength⟩ := ih
    exact ⟨(ts, e) :: items, .cons hspells hitems, congrArg Nat.succ hlength⟩

theorem written_range {start stop step : Int} (h : print labels depth (range start stop step) = .ok text) :
    Written (range start stop step) text := by
  have hcall (ns : List Int) {pieces : List (List Char)} (hne : ns ≠ [])
      (h : List.Forall₂ (fun n piece => printInt n = .ok piece) ns pieces) :
      Written (range start stop step) (bracketed "range(" ")" pieces) := by
    obtain ⟨items, hitems, hlength⟩ := spellAll_of_printInt h
    have hne : items ≠ [] := by
      rintro rfl
      exact hne (List.length_eq_zero_iff.mp hlength.symm)
    have hcall := spells_call "range".toList (by decide) hitems hne
    have htext : bracketed "range(" ")" pieces = "range".toList ++ '(' :: commas pieces ++ [')'] := by
      simp [bracketed]
    rw [htext]
    exact .spelled hcall (isRead_other rfl)
  rw [print] at h
  split at h
  · obtain ⟨first, hfirst, h⟩ := bind_eq_ok.mp h
    obtain ⟨second, hsecond, h⟩ := bind_eq_ok.mp h
    rw [← pure_eq_ok.mp h]
    exact hcall [start, stop] nofun (.cons hfirst (.cons hsecond .nil))
  · obtain ⟨first, hfirst, h⟩ := bind_eq_ok.mp h
    obtain ⟨second, hsecond, h⟩ := bind_eq_ok.mp h
    obtain ⟨third, hthird, h⟩ := bind_eq_ok.mp h
    rw [← pure_eq_ok.mp h]
    exact hcall [start, stop, step] nofun (.cons hfirst (.cons hsecond (.cons hthird .nil)))

theorem written_emptySet : Written (set []) "set()".toList := by
  have hspells := spells_emptyCall "set".toList (by decide)
  have hnames : Text.namesSet "set".toList = true := by decide
  rw [if_pos hnames] at hspells
  exact .spelled (hspells.mono (by decide)) rfl

theorem written_emptyFrozenset : Written (frozenset []) "frozenset()".toList := by
  have hspells := spells_emptyCall "frozenset".toList (by decide)
  have hnames : Text.namesSet "frozenset".toList = false := by decide
  rw [hnames, if_neg nofun] at hspells
  exact .spelled (hspells.mono (by decide)) (isRead_other rfl)

/-- A partial call breaks off at the object that it is a call of. -/
theorem broken_partial {first : List Char} (h : first.head? = some '<') (later : List (List Char)) :
    Broken (bracketed "functools.partial(" ")" (first :: later)) := by
  obtain ⟨pre, ps, junk, rfl, hb⟩ := broken_of_head? h
  obtain ⟨more, hmore⟩ := commas_append [] pre ('<' :: junk) later
  rw [List.nil_append, behindPieces] at hmore
  refine ⟨_, _, junk ++ more ++ [')'], ?_, hb.partialCall⟩
  rw [bracketed, hmore]
  simp

end Leaves

section Printing

theorem printItems_eq (depth : Nat) (items : List Value) :
    printItems labels depth items = items.mapM (print labels depth) := by
  induction items with
  | nil => rfl
  | cons v rest ih =>
    rw [printItems, List.mapM_cons, ih]

theorem forall₂_of_printEntries {entries : List (Value × Value)} {pieces : List (List Char)}
    (h : printEntries labels depth entries = .ok pieces) : ∃ texts, pieces = texts.map entryText ∧
      List.Forall₂ (fun d p => print labels depth d.1 = .ok p.1 ∧ print labels depth d.2 = .ok p.2)
        entries texts := by
  induction entries generalizing pieces with
  | nil =>
    rw [printEntries] at h
    cases h
    exact ⟨[], rfl, .nil⟩
  | cons e rest ih =>
    rw [printEntries] at h
    obtain ⟨key, hkey, h⟩ := bind_eq_ok.mp h
    obtain ⟨value, hvalue, h⟩ := bind_eq_ok.mp h
    obtain ⟨later, hlater, h⟩ := bind_eq_ok.mp h
    obtain ⟨texts, rfl, htexts⟩ := ih hlater
    exact ⟨(key, value) :: texts, (pure_eq_ok.mp h).symm, .cons ⟨hkey, hvalue⟩ htexts⟩

theorem exists_of_printItems_eq_error {items : List Value} {failure : Failure}
    (h : printItems labels depth items = .error failure) :
    ∃ w ∈ items, print labels depth w = .error failure := by
  rw [printItems_eq, mapM_eq_error] at h
  obtain ⟨before, w, after, rfl, -, hw⟩ := h
  exact ⟨w, List.mem_append_right _ List.mem_cons_self, hw⟩

theorem exists_of_printEntries_eq_error {entries : List (Value × Value)} {failure : Failure}
    (h : printEntries labels depth entries = .error failure) :
    ∃ w ∈ entries.flatMap fun e => [e.1, e.2], print labels depth w = .error failure := by
  induction entries with
  | nil =>
    rw [printEntries] at h
    cases h
  | cons e rest ih =>
    rw [printEntries] at h
    rw [List.flatMap_cons]
    rcases bind_eq_error.mp h with h | ⟨_, -, h⟩
    · exact ⟨e.1, by simp, h⟩
    rcases bind_eq_error.mp h with h | ⟨_, -, h⟩
    · exact ⟨e.2, by simp, h⟩
    rcases bind_eq_error.mp h with h | ⟨_, -, h⟩
    · obtain ⟨w, hw, hprint⟩ := ih h
      exact ⟨w, List.mem_append_right _ hw, hprint⟩
    · cases h

section Container

variable {parts : Nat → Except Failure (List (List Char))} {render : List (List Char) → List Char}

/-- A container is printed around its printed parts, which are nested one deeper. -/
theorem exists_pieces_of_print (hdeep : print labels 0 v = .error .nestingTooDeep)
    (hprint : ∀ d, print labels (d + 1) v = do pure (render (← parts d)))
    (h : print labels depth v = .ok text) : ∃ d pieces, parts d = .ok pieces ∧ render pieces = text := by
  cases depth with
  | zero => cases hdeep.symm.trans h
  | succ d =>
    rw [hprint] at h
    obtain ⟨pieces, hp, h⟩ := bind_eq_ok.mp h
    exact ⟨d, pieces, hp, pure_eq_ok.mp h⟩

/-- What fails in a container fails because it is nested too deep, or in something that it holds. -/
theorem exists_contents_of_parts {failure : Failure} (hdeep : print labels 0 v = .error .nestingTooDeep)
    (hprint : ∀ d, print labels (d + 1) v = do pure (render (← parts d)))
    (hparts : ∀ d, parts d = .error failure → ∃ w ∈ v.contents, print labels d w = .error failure)
    (h : print labels depth v = .error failure) : depth = 0 ∧ failure = .nestingTooDeep ∨
      ∃ d, depth = d + 1 ∧ ∃ w ∈ v.contents, print labels d w = .error failure := by
  cases depth with
  | zero => exact .inl ⟨rfl, Except.error.inj (h.symm.trans hdeep)⟩
  | succ d =>
    rw [hprint] at h
    rcases bind_eq_error.mp h with h | ⟨_, -, h⟩
    · exact .inr ⟨d, rfl, hparts d h⟩
    · cases h

end Container

theorem exists_contents_of_print {failure : Failure} (hv : 0 < v.nesting)
    (h : print labels depth v = .error failure) : depth = 0 ∧ failure = .nestingTooDeep ∨
      ∃ d, depth = d + 1 ∧ ∃ w ∈ v.contents, print labels d w = .error failure := by
  cases v with
  | list | tuple =>
    exact exists_contents_of_parts rfl (fun _ => rfl) (fun _ => exists_of_printItems_eq_error) h
  | set items | frozenset items =>
    cases items with
    | nil => cases h
    | cons => exact exists_contents_of_parts rfl (fun _ => rfl) (fun _ => exists_of_printItems_eq_error) h
  | dict | mappingproxy =>
    exact exists_contents_of_parts rfl (fun _ => rfl) (fun _ => exists_of_printEntries_eq_error) h
  | _ => exact absurd hv (Nat.not_lt_zero 0)

end Printing

variable (labels) in
/-- Whether a value is of a kind whose printed form is known: data, an object between angle brackets, or a
partial call of such an object. -/
def isKnownPart : Value → Bool
  | partialCall _ inner _ _ => inner.isObjectPart labels
  | v => v.isDatumPart || v.isObjectPart labels

/-- The printed form of a value of known parts spells an expression or breaks off. -/
theorem written_of_print (hk : v.every (isKnownPart labels) = true) (hp : v.isProper = true)
    (h : print labels depth v = .ok text) : Written v text := by
  induction v using induction_contents generalizing depth text with
  | h v ih =>
    obtain ⟨hpart, hcontents⟩ := every_iff.mp hk
    obtain ⟨hproper, hcontents'⟩ := every_iff.mp hp
    have ih (w : Value) (hw : w ∈ v.contents) {depth : Nat} {text : List Char}
        (h : print labels depth w = .ok text) : Written w text := ih w hw (hcontents w hw) (hcontents' w hw) h
    have hitems {depth : Nat} {items : List Value} {pieces : List (List Char)} (hv : v.contents = items)
        (h : printItems labels depth items = .ok pieces) : List.Forall₂ Written items pieces := by
      rw [printItems_eq, mapM_eq_ok] at h
      exact forall₂_imp_of_mem h fun w hw _ => ih w (hv ▸ hw)
    have hentries {depth : Nat} {entries : List (Value × Value)} {pieces : List (List Char)}
        (hv : v.contents = entries.flatMap fun d => [d.1, d.2])
        (h : printEntries labels depth entries = .ok pieces) : ∃ texts, pieces = texts.map entryText ∧
          List.Forall₂ (fun d p => Written d.1 p.1 ∧ Written d.2 p.2) entries texts := by
      obtain ⟨texts, rfl, htexts⟩ := forall₂_of_printEntries h
      refine ⟨texts, rfl, forall₂_imp_of_mem htexts fun d hd p hp => ⟨ih _ ?_ hp.1, ih _ ?_ hp.2⟩⟩
      · exact hv ▸ mem_contents_entries.mpr ⟨d, hd, .inl rfl⟩
      · exact hv ▸ mem_contents_entries.mpr ⟨d, hd, .inr rfl⟩
    have hobject (hv : v.isObjectPart labels = true) (hlit : v.isLiteral = false) : Written v text :=
      .broken hlit (broken_of_head? (head?_of_print hv h))
    have hleaf {t : List Char} (h : (pure t : Except Failure (List Char)) = .ok text) (ht : Written v t) :
        Written v text := by
      rwa [← pure_eq_ok.mp h]
    cases v with
    | null =>
      have hspells : Spells 0 "None".toList _ (.constant null) := spells_word (by simp [constants])
      exact hleaf h (written_of_spells hspells rfl)
    | bool b =>
      cases b with
      | true =>
        have hspells : Spells 0 "True".toList _ (.constant (bool true)) := spells_word (by simp [constants])
        exact hleaf h (written_of_spells hspells rfl)
      | false =>
        have hspells : Spells 0 "False".toList _ (.constant (bool false)) := spells_word (by simp [constants])
        exact hleaf h (written_of_spells hspells rfl)
    | int n =>
      obtain ⟨ts, e, hspells, he⟩ := spells_of_printInt h
      exact written_of_spells hspells he
    | float x =>
      obtain ⟨ts, e, hspells, he⟩ := spells_float hproper
      exact hleaf h (written_of_spells hspells he)
    | complex re im =>
      obtain ⟨hre, him⟩ := Bool.and_eq_true_iff.mp hproper
      obtain ⟨ts, e, hspells, he⟩ := spells_complex hre him
      exact hleaf h (.spelled hspells he)
    | str s => exact hleaf h (written_str s)
    | bytes data => exact hleaf h (written_bytes data)
    | bytearray data => exact hleaf h (written_bytearray data)
    | ellipsis => exact hleaf h (written_name (by decide) rfl)
    | range start stop step => exact written_range h
    | list items =>
      obtain ⟨d, pieces, hp, rfl⟩ := exists_pieces_of_print rfl (fun _ => rfl) h
      exact written_list (hitems rfl hp)
    | tuple items =>
      obtain ⟨d, pieces, hp, rfl⟩ := exists_pieces_of_print rfl (fun _ => rfl) h
      exact written_tuple (hitems rfl hp)
    | set items =>
      cases items with
      | nil => exact hleaf h written_emptySet
      | cons first later =>
        obtain ⟨d, pieces, hp, rfl⟩ := exists_pieces_of_print rfl (fun _ => rfl) h
        obtain ⟨hkeys, hdistinct⟩ := Bool.and_eq_true_iff.mp hproper
        exact written_set (hitems rfl hp) (List.cons_ne_nil _ _) hkeys hdistinct
    | frozenset items =>
      cases items with
      | nil => exact hleaf h written_emptyFrozenset
      | cons first later =>
        obtain ⟨d, pieces, hp, rfl⟩ := exists_pieces_of_print rfl (fun _ => rfl) h
        exact written_frozenset (hitems rfl hp) (List.cons_ne_nil _ _)
    | dict entries =>
      obtain ⟨d, pieces, hp, rfl⟩ := exists_pieces_of_print rfl (fun _ => rfl) h
      obtain ⟨texts, rfl, htexts⟩ := hentries rfl hp
      obtain ⟨hkeys, hdistinct⟩ := Bool.and_eq_true_iff.mp hproper
      exact written_dict htexts hkeys hdistinct
    | mappingproxy entries =>
      obtain ⟨d, pieces, hp, rfl⟩ := exists_pieces_of_print rfl (fun _ => rfl) h
      obtain ⟨texts, rfl, htexts⟩ := hentries rfl hp
      exact written_mappingproxy htexts
    | partialCall id inner arguments keywords =>
      cases depth with
      | zero => cases h
      | succ depth =>
        obtain ⟨first, hfirst, h⟩ := bind_eq_ok.mp h
        obtain ⟨later, -, h⟩ := bind_eq_ok.mp h
        obtain ⟨last, -, h⟩ := bind_eq_ok.mp h
        exact hleaf h (.broken rfl (broken_partial (head?_of_print hpart hfirst) _))
    | _ => exact hobject hpart rfl

end Value
end MacroStubs
