import FlowConverter.Proofs.Reading

/-! Braces in texts. A text opens `n` braces if, read from left to right, it closes no brace that it
has not opened and leaves `n` of them open. Only the braces of a text matter for that, so
quoting a text, indenting its lines or joining texts by a separator keeps the count. The printed
form of a value opens nothing if no text inside the value does. -/
namespace FlowConverter

namespace Text

def isBrace (c : Char) : Bool := c == '\x7b' || c == '\x7d'

def Braceless (s : String) : Prop := ∀ c ∈ s.toList, isBrace c = false

instance (s : String) : Decidable (Braceless s) :=
  decidable_of_iff (s.toList.all fun c => !isBrace c) (by simp [Braceless])

/-- Every prefix has at least as many opening braces as closing ones, and the whole text has as
many of the one kind as of the other. -/
structure Balanced (s : String) : Prop where
  prefixes : ∀ p, p <+: s.toList → p.count '\x7d' ≤ p.count '\x7b'
  total : s.toList.count '\x7b' = s.toList.count '\x7d'

/-! ### Depth -/

/-- How many braces are open after some characters if `d` are open before them. -/
def depthFrom (d : Nat) : List Char → Option Nat
  | [] => some d
  | c :: rest =>
    if c = '\x7b' then depthFrom (d + 1) rest
    else if c = '\x7d' then
      match d with
      | 0 => none
      | d + 1 => depthFrom d rest
    else depthFrom d rest

theorem depthFrom_append (d : Nat) (s t : List Char) :
    depthFrom d (s ++ t) = (depthFrom d s).bind fun e => depthFrom e t := by
  induction s generalizing d with
  | nil => rfl
  | cons c s ih =>
    simp only [List.cons_append, depthFrom]
    split
    · exact ih (d + 1)
    · split
      · cases d with
        | zero => rfl
        | succ d => exact ih d
      · exact ih d

theorem depthFrom_cons_of_not_isBrace {c : Char} (h : isBrace c = false) (d : Nat)
    (rest : List Char) : depthFrom d (c :: rest) = depthFrom d rest := by
  simp only [isBrace, Bool.or_eq_false_iff, beq_eq_false_iff_ne] at h
  simp [depthFrom, h]

theorem depthFrom_filter (d : Nat) (s : List Char) :
    depthFrom d (s.filter isBrace) = depthFrom d s := by
  induction s generalizing d with
  | nil => rfl
  | cons c s ih =>
    cases h : isBrace c with
    | false => rw [List.filter_cons_of_neg (by simp [h]), depthFrom_cons_of_not_isBrace h, ih]
    | true =>
      rw [List.filter_cons_of_pos h]
      cases d <;> simp only [depthFrom, ih]

private theorem forall_prefix_cons {P : List Char → Prop} {c : Char} {s : List Char} :
    (∀ p, p <+: c :: s → P p) ↔ P [] ∧ ∀ p, p <+: s → P (c :: p) := by
  simp only [List.prefix_cons_iff]
  constructor
  · intro h
    exact ⟨h [] (.inl rfl), fun p hp => h (c :: p) (.inr ⟨p, rfl, hp⟩)⟩
  · rintro ⟨hnil, hcons⟩ p (rfl | ⟨q, rfl, hq⟩)
    · exact hnil
    · exact hcons q hq

/-- The depth is a matter of counting, as long as no prefix closes too much. -/
theorem depthFrom_eq_some_iff {d e : Nat} {s : List Char} :
    depthFrom d s = some e ↔
      d + s.count '\x7b' = e + s.count '\x7d' ∧
        ∀ p, p <+: s → p.count '\x7d' ≤ d + p.count '\x7b' := by
  induction s generalizing d with
  | nil => simp [depthFrom]
  | cons c s ih =>
    simp only [forall_prefix_cons, depthFrom]
    by_cases hopen : c = '\x7b'
    · subst hopen
      rw [if_pos rfl, ih]
      refine and_congr (by simp; omega) ?_
      simp [Nat.add_assoc, Nat.add_comm 1]
    · rw [if_neg hopen]
      by_cases hclose : c = '\x7d'
      · subst hclose
        rw [if_pos rfl]
        cases d with
        | zero =>
          simp only [reduceCtorEq, false_iff]
          rintro ⟨-, -, hp⟩
          have := hp [] List.nil_prefix
          simp at this
        | succ d =>
          simp only [ih]
          refine and_congr (by simp; omega) ?_
          simp [Nat.add_right_comm d 1]
      · rw [if_neg hclose, ih]
        simp [hopen, hclose]

/-! ### Texts that open braces -/

def braces (s : String) : List Char := s.toList.filter isBrace

@[simp] theorem braces_append (s t : String) : braces (s ++ t) = braces s ++ braces t := by
  simp [braces]

theorem braces_eq_nil_iff {s : String} : braces s = [] ↔ Braceless s := by
  simp [braces, Braceless, List.filter_eq_nil_iff]

theorem braces_intercalate {sep : String} (hsep : braces sep = []) (parts : List String) :
    braces (sep.intercalate parts) = parts.flatMap braces := by
  induction parts with
  | nil => rfl
  | cons s rest ih =>
    cases rest with
    | nil => simp
    | cons t rest =>
      rw [String.intercalate_cons_cons, braces_append, braces_append, hsep, ih]
      simp

/-- Wherever the text stands, it closes only what it has opened and leaves `n` braces open. -/
def Opens (n : Nat) (s : String) : Prop := ∀ d, depthFrom d s.toList = some (d + n)

/-- Wherever `a` braces more are open, the text leaves `b` of them open. A template is a chain of such
pieces. -/
def Leads (a b : Nat) (s : String) : Prop := ∀ d, depthFrom (d + a) s.toList = some (d + b)

theorem Leads.append {a b c : Nat} {s t : String} (hs : Leads a b s) (ht : Leads b c t) :
    Leads a c (s ++ t) := by
  intro d
  rw [String.toList_append, depthFrom_append, hs d]
  exact ht d

theorem Opens.leads {n : Nat} {s : String} (h : Opens n s) (a : Nat) : Leads a (a + n) s := by
  intro d
  rw [h (d + a), Nat.add_assoc]

theorem opens_iff_braces {n : Nat} {s : String} :
    Opens n s ↔ ∀ d, depthFrom d (braces s) = some (d + n) := by
  simp only [Opens, braces, depthFrom_filter]

namespace Opens

variable {m n : Nat} {s t sep : String}

theorem of_braces_eq (h : braces s = braces t) (ht : Opens n t) : Opens n s := by
  rw [opens_iff_braces] at ht ⊢
  rw [h]
  exact ht

theorem of_braceless (h : Braceless s) : Opens 0 s := by
  rw [opens_iff_braces, braces_eq_nil_iff.mpr h]
  intro d
  rfl

theorem append (hs : Opens m s) (ht : Opens n t) : Opens (m + n) (s ++ t) := by
  intro d
  simp [depthFrom_append, hs d, ht (d + m), Nat.add_assoc]

theorem beside (hs : Opens 0 s) (ht : Opens 0 t) : Opens 0 (s ++ t) := hs.append ht

theorem intercalate_append {xs ys : List String} (hsep : braces sep = [])
    (hxs : Opens m (sep.intercalate xs)) (hys : Opens n (sep.intercalate ys)) :
    Opens (m + n) (sep.intercalate (xs ++ ys)) := by
  refine of_braces_eq ?_ (hxs.append hys)
  simp [braces_intercalate hsep]

theorem intercalate_cons {xs : List String} (hsep : braces sep = []) (hs : Opens m s)
    (hxs : Opens n (sep.intercalate xs)) : Opens (m + n) (sep.intercalate (s :: xs)) := by
  rw [← List.singleton_append]
  exact intercalate_append hsep (by simpa using hs) hxs

/-- Joining texts that open nothing opens nothing. -/
theorem intercalate {xs : List String} (hsep : braces sep = []) (hxs : ∀ s ∈ xs, Opens 0 s) :
    Opens 0 (sep.intercalate xs) := by
  induction xs with
  | nil => exact fun d => rfl
  | cons s xs ih =>
    rw [List.forall_mem_cons] at hxs
    exact intercalate_cons hsep hxs.1 (ih hxs.2)

/-- What a text opens it opens between braces too. -/
theorem braced (h : Opens n s) : Opens n ("\x7b" ++ s ++ "\x7d") := by
  have hopen : Leads 0 1 "\x7b" := fun _ => rfl
  have hclose : Leads (1 + n) n "\x7d" := by
    intro d
    rw [← Nat.add_assoc, Nat.add_right_comm]
    rfl
  exact (hopen.append (h.leads 1)).append hclose

theorem count_eq (h : Opens n s) : s.toList.count '\x7b' = n + s.toList.count '\x7d' := by
  have := (depthFrom_eq_some_iff.mp (h 0)).1
  omega

theorem prefixes (h : Opens n s) {p : List Char} (hp : p <+: s.toList) :
    p.count '\x7d' ≤ p.count '\x7b' := by
  have := (depthFrom_eq_some_iff.mp (h 0)).2 p hp
  omega

end Opens

/-- A text that opens some braces is balanced only if it opens none. -/
theorem Opens.balanced_iff {n : Nat} {s : String} (h : Opens n s) : Balanced s ↔ n = 0 := by
  have hcount := h.count_eq
  constructor
  · intro hb
    have := hb.total
    omega
  · rintro rfl
    exact ⟨fun p hp => h.prefixes hp, by omega⟩

theorem balanced_iff_opens {s : String} : Balanced s ↔ Opens 0 s := by
  constructor
  · rintro ⟨hprefixes, htotal⟩ d
    rw [depthFrom_eq_some_iff]
    refine ⟨by omega, ?_⟩
    intro p hp
    have hp := hprefixes p hp
    omega
  · intro h
    exact h.balanced_iff.mpr rfl

/-- Texts with the property close the braces that they open, and no others. -/
class Closing (P : String → Prop) : Prop where
  opens {s : String} (h : P s) : Opens 0 s

instance : Closing Braceless := ⟨.of_braceless⟩

instance : Closing Balanced := ⟨balanced_iff_opens.mp⟩

/-! ### Quoted texts and numbers -/

theorem not_isBrace_of_isDigit {c : Char} (h : c.isDigit = true) : isBrace c = false := by
  cases hb : isBrace c with
  | false => rfl
  | true =>
    simp only [isBrace, Bool.or_eq_true, beq_iff_eq] at hb
    rcases hb with rfl | rfl <;> simp at h

theorem not_isBrace_of_mem_hex {width n : Nat} {c : Char} (h : c ∈ hex width n) :
    isBrace c = false := by
  have hdigits : ∀ k < 16, isBrace (Nat.digitChar k) = false := by decide
  simp only [hex, List.mem_append, List.mem_replicate] at h
  rcases h with ⟨-, rfl⟩ | h
  · rfl
  · induction n using Nat.strongRecOn with
    | ind n ih =>
      rw [Nat.toDigits_eq_if (by omega)] at h
      split at h
      · rw [List.mem_singleton.mp h]
        exact hdigits n (by omega)
      · rcases List.mem_append.mp h with h | h
        · exact ih (n / 16) (by omega) h
        · rw [List.mem_singleton.mp h]
          exact hdigits _ (by omega)

/-- A brace is quoted as itself, and no other character is quoted with a brace. -/
theorem filter_quoteChar {quote : Char} (hquote : isBrace quote = false) (c : Char) :
    (quoteChar quote c).filter isBrace = [c].filter isBrace := by
  cases hc : isBrace c with
  | true =>
    have hne : c ≠ quote := by
      rintro rfl
      simp [hc] at hquote
    simp only [isBrace, Bool.or_eq_true, beq_iff_eq] at hc
    rcases hc with rfl | rfl
    · simp [quoteChar, hne, show isShown '\x7b' = true by decide]
    · simp [quoteChar, hne, show isShown '\x7d' = true by decide]
  | false =>
    have hpair : ∀ a x, isBrace a = false → x ∈ ['\\', a] → isBrace x = false := by
      intro a x ha hx
      rcases List.mem_pair.mp hx with rfl | rfl
      · rfl
      · exact ha
    have hcode : ∀ mark width n x, isBrace mark = false → x ∈ '\\' :: mark :: hex width n →
        isBrace x = false := by
      intro mark width n x hmark hx
      simp only [List.mem_cons] at hx
      rcases hx with rfl | rfl | hx
      · rfl
      · exact hmark
      · exact not_isBrace_of_mem_hex hx
    have hchars : ∀ x ∈ quoteChar quote c, isBrace x = false := by
      intro x hx
      simp only [quoteChar] at hx
      split_ifs at hx
      · exact hpair _ _ hc hx
      · exact hpair _ _ rfl hx
      · exact hpair _ _ rfl hx
      · exact hpair _ _ rfl hx
      · rw [List.mem_singleton.mp hx, hc]
      · exact hcode _ _ _ _ rfl hx
      · exact hcode _ _ _ _ rfl hx
      · exact hcode _ _ _ _ rfl hx
    rw [List.filter_eq_nil_iff.mpr (by simpa using hchars), List.filter_eq_nil_iff.mpr (by simp [hc])]

theorem braces_quoted (s : String) : braces (quoted s) = braces s := by
  have hquote : isBrace (quoteFor s.toList) = false := by
    rw [quoteFor]
    split <;> rfl
  have hbody : ∀ cs : List Char,
      (cs.flatMap (quoteChar (quoteFor s.toList))).filter isBrace = cs.filter isBrace := by
    intro cs
    induction cs with
    | nil => rfl
    | cons c cs ih =>
      rw [List.flatMap_cons, List.filter_append, filter_quoteChar hquote, ih, ← List.filter_append]
      rfl
  simp only [braces, quoted, String.toList_ofList, List.filter_append, hbody,
    List.cons_append, List.filter_cons, hquote, List.filter_nil]
  simp

end Text

theorem Value.braceless_toString (i : Int) : Text.Braceless (toString i) := by
  have hnat : ∀ (n : Nat) (c : Char), c ∈ n.repr.toList → Text.isBrace c = false := by
    intro n c hc
    rw [Nat.repr_eq_ofList_toDigits, String.toList_ofList] at hc
    exact Text.not_isBrace_of_isDigit (Nat.isDigit_of_mem_toDigits (by omega) (by omega) hc)
  intro c hc
  rw [Int.toString_eq_repr] at hc
  cases i with
  | ofNat n => exact hnat n c hc
  | negSucc n =>
    simp only [Int.repr, String.toList_append, List.mem_append] at hc
    rcases hc with hc | hc
    · simp at hc
      rw [hc]
      rfl
    · exact hnat _ c hc

namespace Double

open Text

theorem not_isBrace_of_mem_zeros {n : Nat} {c : Char} (h : c ∈ zeros n) : isBrace c = false := by
  rw [(List.mem_replicate.mp h).2]
  rfl

section

variable {ds : List Char} (hds : ∀ d ∈ ds, isBrace d = false)
include hds

theorem not_isBrace_of_mem_positional {x : Int} {c : Char} (h : c ∈ positional ds x) :
    isBrace c = false := by
  simp only [positional] at h
  split at h
  · simp only [List.mem_append, List.mem_cons] at h
    rcases h with (h | h) | rfl | h
    · exact hds c (List.mem_of_mem_take h)
    · exact not_isBrace_of_mem_zeros h
    · rfl
    · split at h
      · rw [List.mem_singleton.mp h]
        rfl
      · exact hds c (List.mem_of_mem_drop h)
  · simp only [List.mem_append, List.mem_cons] at h
    rcases h with (rfl | rfl | h) | h
    · rfl
    · rfl
    · exact not_isBrace_of_mem_zeros h
    · exact hds c h

theorem not_isBrace_of_mem_scientific {x : Int} {c : Char} (h : c ∈ scientific ds x) :
    isBrace c = false := by
  simp only [scientific, List.mem_append, List.mem_cons] at h
  rcases h with h | rfl | rfl | h | h
  · split at h
    next => cases h
    next d => exact hds c h
    next d rest _ =>
      simp only [List.mem_cons] at h
      rcases h with rfl | rfl | h
      · exact hds c List.mem_cons_self
      · rfl
      · exact hds c (List.mem_cons_of_mem _ h)
  · rfl
  · split <;> rfl
  · exact not_isBrace_of_mem_zeros h
  · exact not_isBrace_of_isDigit (Nat.isDigit_of_mem_toDigits (by omega) (by omega) h)

end

theorem braceless_text (x : Double) : Braceless x.text := by
  cases x with
  | infinite negative => cases negative <;> decide
  | finite negative m e =>
    intro c hc
    simp only [text, String.toList_ofList, List.mem_append] at hc
    rcases hc with hc | hc
    · split at hc
      · rw [List.mem_singleton.mp hc]
        rfl
      · cases hc
    · have hds : ∀ d ∈ dropLastZeros (Nat.toDigits 10 (shortest m e).1), isBrace d = false := by
        intro d hd
        rw [dropLastZeros, List.mem_reverse] at hd
        have hmem := List.mem_reverse.mp ((List.dropWhile_sublist _).subset hd)
        exact not_isBrace_of_isDigit (Nat.isDigit_of_mem_toDigits (by omega) (by omega) hmem)
      have hzero : Braceless "0.0" := by decide
      split at hc
      · exact hzero c hc
      · split at hc
        · exact not_isBrace_of_mem_positional hds hc
        · exact not_isBrace_of_mem_scientific hds hc

end Double

/-! ### Values -/

namespace Value

open Text

mutual

def allTexts : Value → List String
  | str s => [s]
  | list items => textsOfItems items
  | mapping fields => textsOfFields fields
  | _ => []

def textsOfItems : List Value → List String
  | [] => []
  | v :: rest => v.allTexts ++ textsOfItems rest

def textsOfFields : List (String × Value) → List String
  | [] => []
  | (k, v) :: rest => k :: (v.allTexts ++ textsOfFields rest)

end

theorem mem_textsOfItems {s : String} {items : List Value} :
    s ∈ textsOfItems items ↔ ∃ v ∈ items, s ∈ v.allTexts := by
  induction items with
  | nil => simp [textsOfItems]
  | cons v rest ih => simp [textsOfItems, ih]

theorem mem_textsOfFields {s : String} {fields : List (String × Value)} :
    s ∈ textsOfFields fields ↔ ∃ f ∈ fields, s = f.1 ∨ s ∈ f.2.allTexts := by
  induction fields with
  | nil => simp [textsOfFields]
  | cons f rest ih => simp [textsOfFields, ih, or_assoc]

mutual

/-- A quoted value opens nothing if no text inside it does. The braces of a mapping match. -/
theorem opens_quoted : ∀ v : Value, (∀ s ∈ v.allTexts, Opens 0 s) → Opens 0 v.quoted
  | null, _ => fun _ => rfl
  | bool b, _ => by cases b <;> exact fun _ => rfl
  | int i, _ => .of_braceless (braceless_toString i)
  | float x, _ => .of_braceless x.braceless_text
  | str s, h => .of_braces_eq (braces_quoted s) (h s List.mem_cons_self)
  | list items, h => by
    have hitems : Opens 0 (", ".intercalate (quotedItems items)) :=
      .intercalate rfl (opens_quotedItems items h)
    exact (Opens.beside (fun _ => rfl) hitems).beside fun _ => rfl
  | mapping fields, h => (Opens.intercalate rfl (opens_quotedFields fields h)).braced

theorem opens_quotedItems : ∀ items : List Value, (∀ s ∈ textsOfItems items, Opens 0 s) →
    ∀ s ∈ quotedItems items, Opens 0 s
  | [], _, _, hs => by cases hs
  | v :: rest, h, s, hs => by
    simp only [textsOfItems, List.forall_mem_append] at h
    rcases List.mem_cons.mp hs with rfl | hs
    · exact opens_quoted v h.1
    · exact opens_quotedItems rest h.2 s hs

theorem opens_quotedFields : ∀ fields : List (String × Value),
    (∀ s ∈ textsOfFields fields, Opens 0 s) → ∀ s ∈ quotedFields fields, Opens 0 s
  | [], _, _, hs => by cases hs
  | (k, v) :: rest, h, s, hs => by
    simp only [textsOfFields, List.forall_mem_cons, List.forall_mem_append] at h
    obtain ⟨hk, hv, hrest⟩ := h
    rcases List.mem_cons.mp hs with rfl | hs
    · have hkey : Opens 0 (Text.quoted k) := .of_braces_eq (braces_quoted k) hk
      exact (hkey.beside fun _ => rfl).beside (opens_quoted v hv)
    · exact opens_quotedFields rest hrest s hs

end

/-! ### Properties of all texts in a value -/

/-- The property holds of every text in the value, keys included. -/
def AllTexts (P : String → Prop) (v : Value) : Prop := ∀ s ∈ v.allTexts, P s

instance (P : String → Prop) [DecidablePred P] (v : Value) : Decidable (v.AllTexts P) :=
  decidable_of_iff (v.allTexts.all fun s => decide (P s)) (by simp [AllTexts])

abbrev Braceless (v : Value) : Prop := v.AllTexts Text.Braceless

abbrev Balanced (v : Value) : Prop := v.AllTexts Text.Balanced

variable {P : String → Prop} {v w : Value}

theorem allTexts_null : null.AllTexts P := by simp [AllTexts, allTexts]

theorem allTexts_str_iff {s : String} : (str s).AllTexts P ↔ P s := by
  simp [AllTexts, allTexts]

theorem allTexts_list_iff {items : List Value} :
    (list items).AllTexts P ↔ ∀ v ∈ items, v.AllTexts P := by
  simp only [AllTexts, allTexts, mem_textsOfItems]
  constructor
  · intro h v hv s hs
    exact h s ⟨v, hv, hs⟩
  · rintro h s ⟨v, hv, hs⟩
    exact h v hv s hs

namespace AllTexts

theorem opens_text [Closing P] (h : v.AllTexts P) : Opens 0 v.text := by
  have htexts : ∀ s ∈ v.allTexts, Opens 0 s := fun s hs => Closing.opens (h s hs)
  cases v with
  | str s => exact htexts s List.mem_cons_self
  | _ => exact opens_quoted _ htexts

theorem of_key {fields : List (String × Value)} (h : (mapping fields).AllTexts P)
    {f : String × Value} (hf : f ∈ fields) : (str f.1).AllTexts P :=
  allTexts_str_iff.mpr (h f.1 (mem_textsOfFields.mpr ⟨f, hf, .inl rfl⟩))

theorem of_lookup {fields : List (String × Value)} (h : (mapping fields).AllTexts P) {key : String}
    (hw : fields.lookup key = some w) : w.AllTexts P := by
  obtain ⟨l, r, rfl, -⟩ := List.lookup_eq_some_iff.mp hw
  intro s hs
  exact h s (mem_textsOfFields.mpr ⟨(key, w), by simp, .inr hs⟩)

theorem get (h : v.AllTexts P) {key : String} (hw : v.get key = .ok w) : w.AllTexts P := by
  cases v with
  | mapping fields => exact h.of_lookup (get_mapping_eq_ok_iff.mp hw)
  | _ => cases hw

theorem getOr (h : v.AllTexts P) {key : String} {other : Value} (hother : other.AllTexts P)
    (hw : v.getOr key other = .ok w) : w.AllTexts P := by
  cases v with
  | mapping fields =>
    cases hl : fields.lookup key with
    | none =>
      simp only [Value.getOr, hl] at hw
      cases hw
      exact hother
    | some u =>
      simp only [Value.getOr, hl] at hw
      cases hw
      exact h.of_lookup hl
  | _ => cases hw

theorem getOrNull (h : v.AllTexts P) {key : String} (hw : v.getOrNull key = .ok w) :
    w.AllTexts P := by
  obtain ⟨found, -, hw⟩ := bind_eq_ok_iff.mp hw
  cases found with
  | true => exact h.get hw
  | false =>
    cases hw
    exact allTexts_null

/-- The characters of a text need not have the property, but nothing can be taken from them. -/
theorem of_mem_items (h : v.AllTexts P) {items : List Value} (hitems : v.items = .ok items)
    (hw : w ∈ items) {key : String} {u : Value} (hget : w.get key = .ok u) : w.AllTexts P := by
  cases v with
  | list listed =>
    cases hitems
    exact allTexts_list_iff.mp h w hw
  | str s =>
    cases hitems
    obtain ⟨c, -, rfl⟩ := List.mem_map.mp hw
    cases hget
  | mapping fields =>
    cases hitems
    obtain ⟨f, -, rfl⟩ := List.mem_map.mp hw
    cases hget
  | _ => cases hitems

end AllTexts

end Value

end FlowConverter
