import BrowserCheck.Proofs.Toml.Values

set_option autoImplicit false

/-! A document that was written is read line by line: what its lines do to the tables is what the sections say. -/

namespace BrowserCheck.Toml

open Json (Value Written)
open Reader

structure IsBareKey (name : String) : Prop where
  nonempty : name.toList ≠ []
  bare : ∀ c ∈ name.toList, isBare c = true

instance (name : String) : Decidable (IsBareKey name) :=
  decidable_of_iff (name.toList ≠ [] ∧ name.toList.all isBare = true)
    ⟨fun h => ⟨h.1, List.all_eq_true.mp h.2⟩, fun h => ⟨h.nonempty, List.all_eq_true.mpr h.bare⟩⟩

namespace IsBareKey

variable {name : String} (h : IsBareKey name)

include h

lemma exists_cons : ∃ c more, name.toList = c :: more ∧ isBare c = true := by
  cases hn : name.toList with
  | nil => exact absurd hn h.nonempty
  | cons c more => exact ⟨c, more, rfl, h.bare c (hn ▸ List.mem_cons_self)⟩

lemma head_ne (rest : List Char) {x : Char} (hx : isBare x = false) : ∀ more, name.toList ++ rest ≠ x :: more := by
  obtain ⟨c, more, hc, hbare⟩ := h.exists_cons
  intro more' he
  rw [hc, List.cons_append] at he
  rw [(List.cons.inj he).1, hx] at hbare
  cases hbare

lemma skipSpace_append (rest : List Char) : skipSpace (name.toList ++ rest) = name.toList ++ rest := by
  obtain ⟨c, more, hc, hbare⟩ := h.exists_cons
  have hspace : ¬isSpace c := by
    intro hs
    simp only [isSpace, Bool.or_eq_true, beq_iff_eq] at hs
    rcases hs with rfl | rfl <;> revert hbare <;> decide
  rw [hc, List.cons_append, skipSpace, List.dropWhile_cons_of_neg hspace]

lemma simpleKey?_append {rest : List Char} (hrest : ∀ c ∈ rest.head?, isBare c = false) :
    simpleKey? (name.toList ++ rest) = some (name, rest) := by
  have htake : (name.toList ++ rest).takeWhile isBare = name.toList := by
    rw [List.takeWhile_append_of_pos h.bare]
    cases rest with
    | nil => simp
    | cons c rest => simp [hrest c rfl]
  have hdrop : (name.toList ++ rest).dropWhile isBare = rest := by
    rw [List.dropWhile_append_of_pos h.bare]
    cases rest with
    | nil => simp
    | cons c rest => simp [hrest c rfl]
  unfold simpleKey?
  split
  · next heq => exact absurd heq (h.head_ne rest (by decide) _)
  · next heq => exact absurd heq (h.head_ne rest (by decide) _)
  · have hne : name.toList.isEmpty = false := by simpa using h.nonempty
    simp only [htake, hdrop, hne, String.ofList_toList]
    rfl

end IsBareKey

lemma exists_intercalate (name : String) (path : List String) :
    ∃ more, (String.intercalate "." (name :: path)).toList = name.toList ++ more := by
  cases path with
  | nil => exact ⟨[], by simp⟩
  | cons next path =>
    rw [String.intercalate_cons_cons, String.append_assoc, String.toList_append]
    exact ⟨_, rfl⟩

section Keys

variable {rest : List Char} (hrest : ∀ c ∈ rest.head?, isBare c = false) (hdot : (skipSpace rest).head? ≠ some '.')

include hrest hdot

lemma key?_bare {name : String} (h : IsBareKey name) : key? (name.toList ++ rest) = some ([name], rest) := by
  rw [key?, h.simpleKey?_append hrest]
  dsimp only
  split
  · next heq => exact absurd (heq ▸ rfl) hdot
  · rfl

lemma key?_path {path : List String} (hne : path ≠ []) (hpath : ∀ name ∈ path, IsBareKey name) :
    key? ((String.intercalate "." path).toList ++ rest) = some (path, rest) := by
  induction path with
  | nil => exact absurd rfl hne
  | cons name path ih =>
    obtain ⟨hname, hpath⟩ := List.forall_mem_cons.mp hpath
    cases path with
    | nil => simpa using key?_bare hrest hdot hname
    | cons next path =>
      have ih := ih (List.cons_ne_nil _ _) hpath
      obtain ⟨more, hmore⟩ := exists_intercalate next path
      have hspace : skipSpace ((String.intercalate "." (next :: path)).toList ++ rest) =
          (String.intercalate "." (next :: path)).toList ++ rest := by
        rw [hmore, List.append_assoc, (hpath next List.mem_cons_self).skipSpace_append]
      have htext : (String.intercalate "." (name :: next :: path)).toList ++ rest =
          name.toList ++ '.' :: ((String.intercalate "." (next :: path)).toList ++ rest) := by
        simp [String.intercalate_cons_cons]
      have hlength : ((String.intercalate "." (next :: path)).toList ++ rest).length <
          (name.toList ++ '.' :: ((String.intercalate "." (next :: path)).toList ++ rest)).length := by
        simp only [List.length_append, List.length_cons]
        omega
      have hpoint (s : List Char) : skipSpace ('.' :: s) = '.' :: s := rfl
      rw [htext, key?, hname.simpleKey?_append (by simp; decide)]
      dsimp only
      rw [hpoint]
      change (if (skipSpace _).length < _ then (key? (skipSpace _)).map _ else none) = _
      rw [hspace, if_pos hlength, ih]
      rfl

end Keys

lemma Entry.skipSpace_write {e : Entry} {text : List Char} (h : e.write? = some text) (rest : List Char) :
    skipSpace (' ' :: (text ++ rest)) = text ++ rest := by
  suffices hhead : ∃ c more, text = c :: more ∧ ¬isSpace c by
    obtain ⟨c, more, rfl, hc⟩ := hhead
    rw [skipSpace, List.dropWhile_cons_of_pos (by decide), List.cons_append, List.dropWhile_cons_of_neg hc]
  cases e with
  | text s =>
    cases h
    obtain ⟨c, more, htext, hc⟩ := writeText_cons s.toList
    refine ⟨c, more, htext, ?_⟩
    rcases hc with rfl | rfl <;> decide
  | natural n =>
    rw [write?] at h
    split_ifs at h
    cases h
    rw [Text.toList_toString]
    cases hds : Nat.toDigits 10 n with
    | nil => exact absurd hds Nat.toDigits_ne_nil
    | cons c ds =>
      have hc : c.isDigit = true := Text.isDigit_of_mem_digits (n := n) (hds ▸ List.mem_cons_self)
      refine ⟨c, ds, rfl, fun hspace => ?_⟩
      simp only [isSpace, Bool.or_eq_true, beq_iff_eq] at hspace
      rcases hspace with rfl | rfl <;> revert hc <;> decide
  | boolean b =>
    cases h
    cases b <;> exact ⟨_, _, rfl, by decide⟩
  | texts ss =>
    cases h
    rcases ss with _ | ⟨s, _ | ⟨s', ss⟩⟩
    · exact ⟨_, _, rfl, by decide⟩
    · exact ⟨_, _, rfl, by decide⟩
    · exact ⟨_, _, rfl, by decide⟩

namespace Reader.State

variable {st st' : State}

def add? (st : State) (field : String × Entry) : Option State :=
  (st.root.insertAt st.header [] field.1 (.value (.ofValue field.2.value))).map fun root => ⟨root, st.header⟩

def open? (st : State) : List String → Option State
  | [] => some st
  | path => do
    let (init, last) ← splitLast? path
    let root ← st.root.openTable init last
    return ⟨root, path⟩

def place? (st : State) (s : Section) : Option State := (st.open? s.path).bind fun st => s.entries.foldlM add? st

lemma document?_line {s rest : List Char} (hline : line? st s = some (st', rest)) (hlength : rest.length < s.length) :
    document? st s = document? st' rest := by
  have hne : s.isEmpty = false := by
    cases s with
    | nil => cases hlength
    | cons c s => rfl
  rw [document?, if_neg (by simp [hne]), hline]
  exact if_pos hlength

lemma line?_key {name : String} (h : IsBareKey name) (rest : List Char) :
    line? st (name.toList ++ rest) = pairLine? st (name.toList ++ rest) := by
  have hnone : lineEnd? (name.toList ++ rest) = none := by
    have hhash : (name.toList ++ rest).head? ≠ some '#' := fun he => by
      obtain ⟨more, hmore⟩ := List.head?_eq_some_iff.mp he
      exact h.head_ne rest (by decide) more hmore
    unfold lineEnd?
    dsimp only
    rw [h.skipSpace_append, if_neg hhash]
    split
    · next heq => exact absurd (List.append_eq_nil_iff.mp heq).1 h.nonempty
    · next heq => exact absurd heq (h.head_ne rest (by decide) _)
    · next heq => exact absurd heq (h.head_ne rest (by decide) _)
    · rfl
  unfold line?
  rw [h.skipSpace_append]
  split
  · next heq => exact absurd heq (h.head_ne rest (by decide) _)
  · next heq => exact absurd heq (h.head_ne rest (by decide) _)
  · rw [hnone]

lemma document?_field {field : String × Entry} {text : List Char} (hkey : IsBareKey field.1)
    (hwrite : writeField? field = some text) (hadd : st.add? field = some st') (rest : List Char) :
    document? st (text ++ rest) = document? st' rest := by
  obtain ⟨v, hv, rfl⟩ := Option.map_eq_some_iff.mp hwrite
  have htext : field.1.toList ++ " = ".toList ++ v ++ ['\n'] ++ rest =
      field.1.toList ++ ' ' :: '=' :: ' ' :: (v ++ '\n' :: rest) := by simp
  have hpair : pair? (value? depthLimit) (field.1.toList ++ ' ' :: '=' :: ' ' :: (v ++ '\n' :: rest)) =
      some ([field.1], .ofValue field.2.value, '\n' :: rest) := by
    have hequals (s : List Char) : skipSpace (' ' :: '=' :: s) = '=' :: s := rfl
    rw [pair?, key?_bare (by simp; decide) (by rw [hequals]; simp) hkey]
    dsimp only
    rw [hequals]
    change (value? depthLimit (skipSpace _)).map _ = _
    rw [Entry.skipSpace_write hv, Entry.value?_write hv]
    rfl
  rw [htext]
  refine document?_line ?_ (by simp; omega)
  rw [line?_key hkey, pairLine?, hpair]
  obtain ⟨root, hroot, rfl⟩ := Option.map_eq_some_iff.mp hadd
  have hend : lineEnd? ('\n' :: rest) = some rest := rfl
  simp [hend, splitLast?, hroot]

lemma document?_header {path : List String} (hne : path ≠ []) (hpath : ∀ name ∈ path, IsBareKey name)
    (hopen : st.open? path = some st') (rest : List Char) :
    document? st (Section.header path ++ rest) = document? st' rest := by
  have htext : Section.header path ++ rest =
      '\n' :: '[' :: ((String.intercalate "." path).toList ++ ']' :: '\n' :: rest) := by
    simp [Section.header, hne]
  have hblank (s : List Char) : line? st ('\n' :: s) = some (st, s) := rfl
  rw [htext, document?_line (hblank _) (by simp)]
  refine document?_line ?_ (by simp; omega)
  obtain ⟨name, names, rfl⟩ := List.exists_cons_of_ne_nil hne
  have hname := hpath name List.mem_cons_self
  have hkey : key? ((String.intercalate "." (name :: names)).toList ++ ']' :: '\n' :: rest) =
      some (name :: names, ']' :: '\n' :: rest) := key?_path (by simp; decide) (by simp [skipSpace, isSpace]) hne hpath
  obtain ⟨more, hmore⟩ := exists_intercalate name names
  rw [hmore, List.append_assoc] at hkey ⊢
  have hbracket (s : List Char) : skipSpace ('[' :: s) = '[' :: s := rfl
  unfold line?
  rw [hbracket]
  split
  · next heq => exact absurd (List.cons.inj heq).2 (hname.head_ne _ (by decide) _)
  · next heq =>
    obtain rfl := (List.cons.inj heq).2
    obtain ⟨⟨init, last⟩, hlast, hopen⟩ := Option.bind_eq_some_iff.mp hopen
    obtain ⟨root, hroot, hopen⟩ := Option.bind_eq_some_iff.mp hopen
    have hclose (s : List Char) : [']'].isPrefixOf? (skipSpace (']' :: s)) = some s := rfl
    have hend : lineEnd? ('\n' :: rest) = some rest := rfl
    cases hopen
    simp [header?, hname.skipSpace_append, hkey, hclose, hend, hlast, hroot]
  · next _ hne => exact absurd rfl (hne _)

lemma document?_fields {fields : List (String × Entry)} {lines : List (List Char)}
    (hkeys : ∀ f ∈ fields, IsBareKey f.1) (hwrite : fields.mapM writeField? = some lines)
    (hadd : fields.foldlM add? st = some st') (rest : List Char) :
    document? st (lines.flatten ++ rest) = document? st' rest := by
  induction fields generalizing st lines with
  | nil =>
    cases hwrite
    cases hadd
    rfl
  | cons field fields ih =>
    obtain ⟨hkey, hkeys⟩ := List.forall_mem_cons.mp hkeys
    rw [List.mapM_cons] at hwrite
    obtain ⟨line, hline, hwrite⟩ := Option.bind_eq_some_iff.mp hwrite
    obtain ⟨lines, hlines, hwrite⟩ := Option.bind_eq_some_iff.mp hwrite
    cases hwrite
    rw [List.foldlM_cons] at hadd
    obtain ⟨between, hfirst, hadd⟩ := Option.bind_eq_some_iff.mp hadd
    rw [List.flatten_cons, List.append_assoc, document?_field hkey hline hfirst, ih hkeys hlines hadd]

end Reader.State

namespace Section

def names (s : Section) : List String := s.path ++ s.entries.map Prod.fst

structure IsBare (s : Section) : Prop where
  path : ∀ name ∈ s.path, IsBareKey name
  keys : ∀ f ∈ s.entries, IsBareKey f.1

lemma IsBare.of_names {s : Section} (h : ∀ name ∈ s.names, IsBareKey name) : s.IsBare :=
  ⟨fun name hn => h name (List.mem_append_left _ hn),
    fun _ hf => h _ (List.mem_append_right _ (List.mem_map_of_mem hf))⟩

end Section

namespace Reader.State

variable {st st' : State}

lemma document?_section {s : Section} {text : List Char} (hs : s.IsBare) (hwrite : s.write? = some text)
    (hplace : st.place? s = some st') (rest : List Char) : document? st (text ++ rest) = document? st' rest := by
  obtain ⟨lines, hlines, rfl⟩ := Option.map_eq_some_iff.mp hwrite
  obtain ⟨opened, hopen, hadd⟩ := Option.bind_eq_some_iff.mp hplace
  rw [List.append_assoc]
  by_cases hpath : s.path = []
  · rw [hpath] at hopen ⊢
    cases hopen
    exact document?_fields hs.keys hlines hadd rest
  · rw [document?_header hpath hs.path hopen, document?_fields hs.keys hlines hadd]

lemma document?_sections {sections : List Section} {texts : List (List Char)} (hs : ∀ s ∈ sections, s.IsBare)
    (hwrite : sections.mapM Section.write? = some texts) (hplace : sections.foldlM place? st = some st') :
    document? st texts.flatten = some st'.root := by
  induction sections generalizing st texts with
  | nil =>
    cases hwrite
    cases hplace
    simp [document?]
  | cons s sections ih =>
    obtain ⟨hfirst, hs⟩ := List.forall_mem_cons.mp hs
    rw [List.mapM_cons] at hwrite
    obtain ⟨text, htext, hwrite⟩ := Option.bind_eq_some_iff.mp hwrite
    obtain ⟨texts, htexts, hwrite⟩ := Option.bind_eq_some_iff.mp hwrite
    cases hwrite
    rw [List.foldlM_cons] at hplace
    obtain ⟨between, hbetween, hplace⟩ := Option.bind_eq_some_iff.mp hplace
    rw [List.flatten_cons, document?_section hfirst htext hbetween, ih hs htexts hplace]

end Reader.State

section Marks

def Unmarked (s : List Char) : Prop := s.head? ≠ some '\uFEFF'

lemma Unmarked.append {s s' : List Char} (h : Unmarked s) (h' : Unmarked s') : Unmarked (s ++ s') := by
  cases s with
  | nil => exact h'
  | cons c s => exact h

lemma Unmarked.flatten {texts : List (List Char)} (h : ∀ s ∈ texts, Unmarked s) : Unmarked texts.flatten := by
  induction texts with
  | nil => simp [Unmarked]
  | cons s texts ih =>
    obtain ⟨hs, htexts⟩ := List.forall_mem_cons.mp h
    exact hs.append (ih htexts)

lemma Unmarked.skipMark {s : List Char} (h : Unmarked s) : skipMark s = s := by
  unfold Reader.skipMark
  split
  · exact absurd rfl h
  · rfl

lemma forall_of_mapM {α β : Type} {f : α → Option β} {P : β → Prop} {as : List α} {bs : List β}
    (h : ∀ a ∈ as, ∀ b, f a = some b → P b) (hm : as.mapM f = some bs) : ∀ b ∈ bs, P b := by
  induction as generalizing bs with
  | nil =>
    cases hm
    exact List.forall_mem_nil _
  | cons a as ih =>
    obtain ⟨ha, has⟩ := List.forall_mem_cons.mp h
    rw [List.mapM_cons] at hm
    obtain ⟨b, hb, hm⟩ := Option.bind_eq_some_iff.mp hm
    obtain ⟨bs, hbs, hm⟩ := Option.bind_eq_some_iff.mp hm
    cases hm
    exact List.forall_mem_cons.mpr ⟨ha b hb, ih has hbs⟩

lemma Section.IsBare.unmarked {s : Section} {text : List Char} (hs : s.IsBare) (hwrite : s.write? = some text) :
    Unmarked text := by
  obtain ⟨lines, hlines, rfl⟩ := Option.map_eq_some_iff.mp hwrite
  refine .append ?_ (.flatten (forall_of_mapM (fun f hf line hline => ?_) hlines))
  · rw [header]
    split_ifs <;> simp [Unmarked]
  · obtain ⟨v, -, rfl⟩ := Option.map_eq_some_iff.mp hline
    intro hhead
    rw [List.append_assoc, List.append_assoc] at hhead
    obtain ⟨more, hmore⟩ := List.head?_eq_some_iff.mp hhead
    exact (hs.keys f hf).head_ne _ (by decide) more hmore

end Marks

section TooGreat

lemma mapM_eq_none_iff {α β : Type} {f : α → Option β} {as : List α} :
    as.mapM f = none ↔ ∃ a ∈ as, f a = none := by
  induction as with
  | nil => simp
  | cons a as ih =>
    rw [List.mapM_cons, List.exists_mem_cons_iff, ← ih]
    cases f a with
    | none => simp
    | some b => cases as.mapM f <;> simp

def Entry.Exceeds : Entry → Prop
  | .natural n => greatestInteger < n
  | _ => False

lemma Entry.write?_eq_none_iff {e : Entry} : e.write? = none ↔ e.Exceeds := by
  cases e with
  | natural n => simp [write?, Exceeds]
  | _ => simp [write?, Exceeds]

lemma write?_eq_none_iff {sections : List Section} :
    write? sections = none ↔ ∃ s ∈ sections, ∃ f ∈ s.entries, f.2.Exceeds := by
  simp only [write?, Section.write?, writeField?, Option.map_eq_none_iff, mapM_eq_none_iff, Entry.write?_eq_none_iff]

end TooGreat

lemma read?_write {sections : List Section} {text : String} {st : State} (hs : ∀ s ∈ sections, s.IsBare)
    (hwrite : write? sections = some text) (hplace : sections.foldlM State.place? ⟨[], []⟩ = some st) :
    read? text = some st.root.written := by
  obtain ⟨texts, htexts, rfl⟩ := Option.map_eq_some_iff.mp hwrite
  have hmark : Unmarked texts.flatten := .flatten (forall_of_mapM (fun s h _ => (hs s h).unmarked) htexts)
  rw [read?, String.toList_ofList, hmark.skipMark, State.document?_sections hs htexts hplace]
  rfl

end BrowserCheck.Toml
