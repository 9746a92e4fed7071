import FlowConverter.Proofs.Places
import FlowConverter.Proofs.RequirementLeaves
import FlowConverter.Proofs.TaskBraces
import FlowConverter.Proofs.ToolDomain

/-! Braces from the document of a tool to its text. Cleaning a name or a reference deletes no brace,
and whatever else is taken from a document is a text of it or the printed form of a value. Main
statement: if every text of a tool and of the requirement files that it imports is balanced, then
so is the text that is written for the tool. -/
namespace FlowConverter

namespace Text

theorem balanced_iff_depth {s : String} : depthFrom 0 s.toList = some 0 ↔ Balanced s := by
  rw [depthFrom_eq_some_iff]
  constructor
  · rintro ⟨htotal, hprefixes⟩
    exact ⟨fun p hp => by simpa using hprefixes p hp, by omega⟩
  · rintro ⟨hprefixes, htotal⟩
    exact ⟨by omega, fun p hp => by simpa using hprefixes p hp⟩

instance (s : String) : Decidable (Balanced s) := decidable_of_iff _ balanced_iff_depth

/-! ### Edits that keep the braces -/

theorem filter_dropWhile_mark {m : Char} (hm : isBrace m = false) (cs : List Char) :
    (cs.dropWhile (· == m)).filter isBrace = cs.filter isBrace := by
  induction cs with
  | nil => rfl
  | cons c cs ih =>
    rw [List.dropWhile_cons]
    split
    next hc => rw [ih, List.filter_cons, eq_of_beq hc, hm, if_neg Bool.false_ne_true]
    next => rfl

theorem braces_strip {m : Char} (hm : isBrace m = false) (s : String) :
    braces (strip m s) = braces s := by
  simp only [braces, strip, stripChars, String.toList_ofList, List.filter_reverse,
    filter_dropWhile_mark hm, List.reverse_reverse]

theorem braces_replaceChars {p : Char → Bool} {new : Char}
    (hp : ∀ c, p c = true → isBrace c = false) (hnew : isBrace new = false) (s : String) :
    braces (replaceChars p new s) = braces s := by
  have hchars : ∀ cs : List Char,
      (cs.map fun c => if p c then new else c).filter isBrace = cs.filter isBrace := by
    intro cs
    induction cs with
    | nil => rfl
    | cons c cs ih =>
      rw [List.map_cons]
      split
      next hc =>
        rw [List.filter_cons, List.filter_cons, hnew, hp c hc, if_neg Bool.false_ne_true,
          if_neg Bool.false_ne_true, ih]
      next => rw [List.filter_cons, List.filter_cons, ih]
  rw [braces, replaceChars, String.toList_ofList, hchars, braces]

end Text

namespace Cwl

open Text

theorem not_isBrace_of_wrapping {cs : List Char} {n : Nat} (h : wrappingLength? cs = some n) :
    0 < n ∧ ∀ c ∈ cs.take n, isBrace c = false := by
  rw [wrappingLength?] at h
  split at h
  next hword =>
    cases h
    obtain ⟨rest, rfl⟩ := List.isPrefixOf_iff_prefix.mp hword
    have hdropped : Braceless "inputs." := by decide
    rw [List.take_left' (by rfl)]
    exact ⟨by decide, hdropped⟩
  next =>
    split at h
    next hclosed =>
      cases h
      rw [Bool.or_eq_true, beq_iff_eq, beq_iff_eq] at hclosed
      rcases hclosed with rfl | rfl <;> simp [isBrace]
    next => cases h

theorem braces_dropReference (s : String) : braces (dropReference s) = braces s := by
  simp only [braces, dropReference, String.toList_ofList]
  rw [filter_deleteAll not_isBrace_of_wrapping]
  split
  next hstart =>
    obtain ⟨rest, hrest⟩ := List.isPrefixOf_iff_prefix.mp hstart
    rw [← hrest]
    rfl
  next => rfl

theorem braces_safeName (name : String) : braces (safeName name) = braces name := by
  rw [safeName]
  split
  · rw [braces_append]
    exact List.append_nil _
  · rfl

end Cwl

/-! ### Balanced values -/

namespace Value

open Text

namespace AllTexts

theorem opens_join {v : Value} (h : v.Balanced) {sep s : String} (hsep : braces sep = [])
    (hs : v.join sep = .ok s) : Opens 0 s := by
  cases v with
  | list items =>
    refine Wdl.opens_join hsep ?_ hs
    intro item hitem
    exact (allTexts_list_iff.mp h item hitem).opens_text
  | str t =>
    have hchars : (list (t.toList.map fun c => str c.toString)).join sep = .ok s := hs
    have hflat : ∀ cs : List Char,
        (cs.map fun c => c.toString).flatMap braces = cs.filter isBrace := by
      intro cs
      induction cs with
      | nil => rfl
      | cons c cs ih =>
        have hc : braces c.toString = [c].filter isBrace := by simp [braces]
        rw [List.map_cons, List.flatMap_cons, ih, hc, ← List.filter_append, List.singleton_append]
    have hbraces : braces s = braces t := by
      rw [(join_list_eq_ok hchars).2, braces_intercalate hsep, List.map_map]
      exact hflat t.toList
    exact .of_braces_eq hbraces (balanced_iff_opens.mp (allTexts_str_iff.mp h))
  | mapping fields =>
    have hkeys : (list (fields.map fun f => str f.1)).join sep = .ok s := hs
    refine Wdl.opens_join hsep ?_ hkeys
    rw [List.forall_mem_map]
    intro f hf
    exact (h.of_key hf).opens_text
  | _ => cases hs

end AllTexts

end Value

namespace Logged

variable {ε α β : Type}

/-- What is gathered comes from one of the items. -/
theorem exists_of_mem_gather {f : α → Logged ε (List β)} {xs : List α} {bs : List β} {b : β}
    (h : (gather f xs).outcome = .ok bs) (hb : b ∈ bs) :
    ∃ x ∈ xs, ∃ part, (f x).outcome = .ok part ∧ b ∈ part := by
  induction xs generalizing bs with
  | nil =>
    cases h
    cases hb
  | cons x xs ih =>
    obtain ⟨first, more, hfirst, hmore, rfl⟩ := outcome_gather_cons h
    rcases List.mem_append.mp hb with hb | hb
    · exact ⟨x, List.mem_cons_self, first, hfirst, hb⟩
    · obtain ⟨y, hy, part, hpart, hmem⟩ := ih hmore hb
      exact ⟨y, List.mem_cons_of_mem _ hy, part, hpart, hmem⟩

end Logged

namespace Cwl

open Text

/-! ### Parts of a tool -/

theorem opens_underscored {v : Value} (hv : v.Balanced) {s : String} (h : underscored v = .ok s) :
    Opens 0 s := by
  obtain ⟨t, ht, h⟩ := bind_eq_ok_iff.mp h
  have hkept : ∀ c : Char, (c == ' ' || c == '.') = true → isBrace c = false := by
    intro c hc
    rw [Bool.or_eq_true, beq_iff_eq, beq_iff_eq] at hc
    rcases hc with rfl | rfl <;> rfl
  rw [← Except.ok.inj h]
  refine .of_braces_eq (braces_replaceChars hkept rfl t) ?_
  rw [← Value.text_of_asText ht]
  exact hv.opens_text

theorem opens_partName {part : Value} (hpart : part.Balanced) {other : Except Fault String}
    (hother : ∀ s, other = .ok s → Opens 0 s) {name : String} (h : partName part other = .ok name) :
    Opens 0 name := by
  obtain ⟨chosen, rfl, hchosen⟩ := partName_eq_ok h
  refine .of_braces_eq (braces_safeName chosen) ?_
  rcases hchosen with ⟨v, hv, hchosen⟩ | ⟨v, s, hv, hs, rfl⟩ | ⟨-, -, hchosen⟩
  · exact opens_underscored (hpart.get hv) hchosen
  · exact .of_braces_eq (braces_strip rfl s) (opens_underscored (hpart.get hv) hs)
  · exact hother chosen hchosen

theorem opens_parameterName {source : Value} (hsource : source.Balanced) {name : String}
    (h : parameterName source = .ok name) : Opens 0 name := by
  obtain ⟨id, hid, rfl⟩ := parameterName_eq_ok h
  refine .of_braces_eq ((braces_safeName _).trans (braces_strip rfl id)) ?_
  exact balanced_iff_opens.mp (Value.allTexts_str_iff.mp (hsource.get hid))

/-- A binding whose values are balanced. Its position is never printed. -/
structure Binding.Balanced (b : Binding) : Prop where
  flag : b.flag.Balanced
  separator : b.separator.Balanced
  value : b.value.Balanced

theorem Binding.balanced_of_read {v : Value} (hv : v.Balanced) {b : Binding}
    (h : Binding.read v = .ok b) : b.Balanced := by
  obtain ⟨flag, hflag, h⟩ := bind_eq_ok_iff.mp h
  obtain ⟨position, -, h⟩ := bind_eq_ok_iff.mp h
  obtain ⟨separator, hseparator, h⟩ := bind_eq_ok_iff.mp h
  obtain ⟨value, hvalue, h⟩ := bind_eq_ok_iff.mp h
  obtain rfl := Except.ok.inj h
  exact ⟨hv.getOrNull hflag, hv.getOrNull hseparator, hv.getOrNull hvalue⟩

theorem Binding.balanced_of_readOf {v : Value} (hv : v.Balanced) {b : Binding}
    (h : Binding.readOf v = .ok b) : b.Balanced := by
  obtain ⟨bound, -, h⟩ := bind_eq_ok_iff.mp h
  cases bound with
  | true =>
    obtain ⟨inner, hinner, h⟩ := bind_eq_ok_iff.mp h
    exact balanced_of_read (hv.get hinner) h
  | false =>
    cases h
    exact ⟨Value.allTexts_null, Value.allTexts_null, Value.allTexts_null⟩

theorem Argument.balanced_of_readAll {v : Value} (hv : v.Balanced) {args : List Argument}
    (h : Argument.readAll v = .ok args) {b : Binding} (hb : .bound b ∈ args) : b.Balanced := by
  cases v with
  | list items =>
    obtain ⟨found, hfound, h⟩ := bind_eq_ok_iff.mp h
    obtain rfl := Except.ok.inj h
    simp only [List.mem_filterMap, id_eq, exists_eq_right] at hb
    obtain ⟨item, hitem, hread⟩ := exists_of_mem_mapM hfound hb
    cases item with
    | mapping fields =>
      obtain ⟨binding, hbinding, hread⟩ := bind_eq_ok_iff.mp hread
      cases hread
      exact Binding.balanced_of_read (Value.allTexts_list_iff.mp hv _ hitem) hbinding
    | _ => cases hread
  | mapping fields =>
    obtain ⟨inner, -, h⟩ := bind_eq_ok_iff.mp h
    cases inner with
    | mapping more =>
      obtain ⟨binding, hbinding, h⟩ := bind_eq_ok_iff.mp h
      cases h
      cases List.mem_singleton.mp hb
      exact Binding.balanced_of_read hv hbinding
    | str s =>
      cases h
      cases List.mem_singleton.mp hb
    | _ =>
      cases h
      cases hb
  | _ => cases h

theorem Argument.balanced_of_readOf {tool : Value} (htool : tool.Balanced) {args : List Argument}
    (h : Argument.readOf tool = .ok args) {b : Binding} (hb : .bound b ∈ args) : b.Balanced := by
  obtain ⟨listed, -, h⟩ := bind_eq_ok_iff.mp h
  cases listed with
  | true =>
    obtain ⟨v, hv, h⟩ := bind_eq_ok_iff.mp h
    exact balanced_of_readAll (htool.get hv) h hb
  | false =>
    cases h
    cases hb

theorem ParameterType.opens_text (t : ParameterType) : Opens 0 t.text := by
  rcases t with base | base <;> cases base <;> exact fun _ => rfl

theorem opens_ofText? {s : Option String} (h : ∀ t, s = some t → Opens 0 t) :
    Opens 0 (Value.ofText? s).text := by
  cases s with
  | none => exact fun _ => rfl
  | some t => exact h t rfl

theorem opens_readDefault {source : Value} (hsource : source.Balanced) {b : Binding}
    (hb : b.Balanced) {default : Option String} (h : (readDefault source b).outcome = .ok default)
    {s : String} (hs : default = some s) : Opens 0 s := by
  subst hs
  simp only [readDefault, Logged.outcome_bind, Logged.outcome_lift, Logged.outcome_ite] at h
  obtain ⟨given, -, h⟩ := bind_eq_ok_iff.mp h
  split at h
  next =>
    obtain ⟨v, hv, h⟩ := bind_eq_ok_iff.mp h
    cases h
    exact (hsource.get hv).opens_text
  next =>
    have hvalue := hb.value.opens_text
    cases hvalue' : b.value with
    | null =>
      rw [hvalue'] at h
      cases h
    | _ =>
      rw [hvalue'] at h hvalue
      cases h
      exact hvalue

theorem InputParameter.balanced_toInput {source : Value} (hsource : source.Balanced)
    {p : InputParameter} (h : (InputParameter.read source).outcome = .ok p) :
    p.toInput.Balanced := by
  obtain ⟨binding, hbinding, hflag, -, hseparator, hdefault⟩ := binding_of_read h
  have hb := Binding.balanced_of_readOf hsource hbinding
  refine ⟨opens_parameterName hsource (read_eq_ok h).1, ?_, ?_, ?_, p.type.opens_text⟩
  · rw [toInput, hflag]
    exact hb.flag.opens_text
  · have hspace : Opens 0 " " := fun _ => rfl
    rw [toInput]
    rcases hseparator with hseparator | hseparator
    · rw [hseparator]
      exact hspace
    · rw [hseparator]
      exact hb.separator.opens_text
  · exact opens_ofText? fun s hs => opens_readDefault hsource hb hdefault hs

theorem opens_globExpression {s : String} (h : Opens 0 s) : Opens 0 (globExpression s).text := by
  have hopen : Leads 0 1 "glob('$\x7b" := fun _ => rfl
  exact (hopen.append (h.leads 1)).append fun _ => rfl

theorem opens_readSource {source : Value} (hsource : source.Balanced) {v : Value}
    (h : (readSource source).outcome = .ok v) : Opens 0 v.text := by
  simp only [readSource, Logged.outcome_bind, Logged.outcome_lift, Logged.outcome_ite] at h
  obtain ⟨bound, -, h⟩ := bind_eq_ok_iff.mp h
  split at h
  next =>
    obtain ⟨binding, hbinding, h⟩ := bind_eq_ok_iff.mp h
    have hb := hsource.get hbinding
    obtain ⟨globbed, -, h⟩ := bind_eq_ok_iff.mp h
    split at h
    next =>
      obtain ⟨glob, hglob, h⟩ := bind_eq_ok_iff.mp h
      have hg := (hb.get hglob).opens_text
      cases glob with
      | str s =>
        cases h
        refine opens_globExpression (.of_braces_eq ?_ hg)
        rw [braces_safeName, braces_dropReference]
        rfl
      | _ =>
        cases h
        exact opens_globExpression hg
    next =>
      cases h
      exact hb.opens_text
  next =>
    cases h
    exact fun _ => rfl

theorem OutputParameter.balanced_toOutput {source : Value} (hsource : source.Balanced)
    {p : OutputParameter} (h : (OutputParameter.read source).outcome = .ok p) :
    p.toOutput.Balanced :=
  ⟨opens_parameterName hsource (read_eq_ok h).1, opens_readSource hsource (source_of_read h),
    p.type.opens_text⟩

theorem opens_readStream {tool : Value} (htool : tool.Balanced) {stream : Stream}
    {clean : String → String} (hclean : ∀ s, braces (clean s) = braces s) {name : Option String}
    (h : (readStream tool stream clean).outcome = .ok name) {s : String} (hs : name = some s) :
    Opens 0 s := by
  subst hs
  simp only [readStream, Logged.outcome_bind, Logged.outcome_lift, Logged.outcome_ite] at h
  obtain ⟨named, -, h⟩ := bind_eq_ok_iff.mp h
  split at h
  next =>
    obtain ⟨v, hv, h⟩ := bind_eq_ok_iff.mp h
    have hopens := (htool.get hv).opens_text
    cases v with
    | str t =>
      cases h
      exact .of_braces_eq (hclean t) hopens
    | _ =>
      cases h
      exact hopens
  next => cases h

/-! ### Requirements -/

def Requirement.Balanced : Requirement → Prop
  | docker image => image.Balanced
  | environment settings => ∀ v ∈ settings, v.1.Balanced ∧ v.2.Balanced

theorem Requirement.balanced_of_readVariables {listed : Value} (hlisted : listed.Balanced)
    {settings : List (Value × Value)} (h : readVariables listed = .ok settings) :
    (environment settings).Balanced := by
  obtain ⟨items, hitems, h⟩ := bind_eq_ok_iff.mp h
  intro v hv
  obtain ⟨item, hitem, hread⟩ := exists_of_mem_mapM h hv
  obtain ⟨name, hname, hread⟩ := bind_eq_ok_iff.mp hread
  obtain ⟨value, hvalue, hread⟩ := bind_eq_ok_iff.mp hread
  obtain rfl := Except.ok.inj hread
  have hbalanced := hlisted.of_mem_items hitems hitem hname
  exact ⟨hbalanced.get hname, hbalanced.get hvalue⟩

theorem Requirement.balanced_of_leafReport {entry : Value} {r : Report (List Requirement)}
    (h : LeafReport entry r) (hentry : ∀ key v, entry.get key = .ok v → entry.Balanced)
    {found : List Requirement} (hfound : r.outcome = .ok found) : ∀ q ∈ found, q.Balanced := by
  cases h with
  | environment _ hlisted hsettings =>
    cases hfound
    rw [List.forall_mem_singleton]
    exact balanced_of_readVariables ((hentry _ _ hlisted).get hlisted) hsettings
  | image _ himage =>
    cases hfound
    rw [List.forall_mem_singleton]
    exact (hentry _ _ himage).get himage
  | warning =>
    cases hfound
    simp

/-- Reading the entries comes to import a file that holds `value`: an entry names the file, or one
of the files that are imported on the way to it does. -/
inductive ImportsValue (ws : Workspace) : Value → List Value → Value → Prop where
  | here {sourceDir entry value : Value} {entries : List Value} {path file : String}
    (hentry : entry ∈ entries) (himports : Imports entry path)
    (hfile : ws.locate sourceDir path = .ok (some file)) (hread : ws.read file = .ok value) :
    ImportsValue ws sourceDir entries value
  | within {sourceDir outer value : Value} {entries : List Value}
    (houter : ImportsValue ws sourceDir entries outer)
    (hinner : ImportsValue ws .null (importedEntries outer) value) :
    ImportsValue ws sourceDir entries value

/-- Where all files are balanced, so is all that is imported. -/
theorem ImportsValue.balanced {ws : Workspace} {sourceDir value : Value} {entries : List Value}
    (h : ImportsValue ws sourceDir entries value) (hfiles : ∀ f ∈ ws.files, f.2.Balanced) :
    value.Balanced := by
  induction h with
  | here _ _ _ hread =>
    obtain ⟨f, hf, rfl⟩ := Workspace.exists_mem_files_of_read hread
    exact hfiles f hf
  | within _ _ _ ih => exact ih

/-- Entries that are balanced wherever something can be taken from them. -/
def EntriesBalanced (entries : List Value) : Prop :=
  ∀ entry ∈ entries, ∀ key v, entry.get key = .ok v → entry.Balanced

theorem entriesBalanced_importedEntries {value : Value} (h : value.Balanced) :
    EntriesBalanced (importedEntries value) := by
  intro entry hentry key v _
  cases value with
  | list entries => exact Value.allTexts_list_iff.mp h entry hentry
  | _ =>
    rw [List.mem_singleton.mp hentry]
    exact h

theorem entriesBalanced_listedUnder {part : Value} (hpart : part.Balanced) {key : String}
    {entries : List Value} (h : listedUnder key part = .ok entries) : EntriesBalanced entries := by
  intro entry hentry key' v hget
  obtain ⟨listed, -, h⟩ := bind_eq_ok_iff.mp h
  cases listed with
  | true =>
    obtain ⟨value, hvalue, h⟩ := bind_eq_ok_iff.mp h
    exact (hpart.get hvalue).of_mem_items h hentry hget
  | false =>
    cases h
    cases hentry

/-- If the entries of imported files give balanced requirements, then so do all entries. -/
theorem Requirement.balanced_of_gather {ws : Workspace} {sourceDir : Value} {entries : List Value}
    {inner : List Value → Report (List Requirement)} {found : List Requirement}
    (hentries : EntriesBalanced entries)
    (hinner : ∀ value given, ImportsValue ws sourceDir entries value →
      (inner (importedEntries value)).outcome = .ok given → ∀ r ∈ given, r.Balanced)
    (h : (Logged.gather (readEntry ws inner sourceDir) entries).outcome = .ok found) :
    ∀ r ∈ found, r.Balanced := by
  intro r hr
  obtain ⟨entry, hentry, given, hgiven, hr⟩ := Logged.exists_of_mem_gather h hr
  rcases readEntry_cases hgiven with ⟨path, file, value, himports, hfile, hread, hvalue⟩ |
    ⟨-, hreport⟩
  · exact hinner value given (.here hentry himports hfile hread) (hvalue ▸ hgiven) r hr
  · exact balanced_of_leafReport hreport (hentries entry hentry) hgiven r hr

theorem Requirement.balanced_of_expand {ws : Workspace} (bound : Nat) {entries : List Value}
    {found : List Requirement} (hentries : EntriesBalanced entries)
    (himported : ∀ value, ImportsValue ws .null entries value → value.Balanced)
    (h : (expand ws bound entries).outcome = .ok found) : ∀ r ∈ found, r.Balanced := by
  induction bound generalizing entries found with
  | zero => cases h
  | succ bound ih =>
    rw [expand] at h
    refine balanced_of_gather hentries (fun value given hvalue hgiven => ?_) h
    exact ih (entriesBalanced_importedEntries (himported value hvalue))
      (fun inner hinner => himported inner (.within hvalue hinner)) hgiven

theorem Requirement.balanced_of_readPart {ws : Workspace} {bound : Nat} {sourceDir part : Value}
    {found : List Requirement} (hpart : part.Balanced)
    (himported : ∀ entries value, entriesOf part = .ok entries →
      ImportsValue ws sourceDir entries value → value.Balanced)
    (h : (readPart ws bound sourceDir part).outcome = .ok found) : ∀ r ∈ found, r.Balanced := by
  rw [readPart_eq, Logged.outcome_bind, Logged.outcome_lift] at h
  obtain ⟨entries, hlisted, h⟩ := bind_eq_ok_iff.mp h
  rw [run_script] at h
  have hentries : EntriesBalanced entries := by
    obtain ⟨required, hinted, hrequired, hhinted, rfl⟩ := entriesOf_eq_ok hlisted
    exact List.forall_mem_append.mpr
      ⟨entriesBalanced_listedUnder hpart hrequired, entriesBalanced_listedUnder hpart hhinted⟩
  refine balanced_of_gather hentries (fun value given hvalue hgiven => ?_) h
  have hbalanced := himported entries value hlisted hvalue
  exact balanced_of_expand bound (entriesBalanced_importedEntries hbalanced)
    (fun inner hinner => himported entries inner hlisted (.within hvalue hinner)) hgiven

theorem opens_assignmentsText {assignments : List (String × String)}
    (h : ∀ a ∈ assignments, Opens 0 a.1 ∧ Opens 0 a.2) : Opens 0 (assignmentsText assignments) := by
  refine .intercalate rfl (List.forall_mem_map.mpr ?_)
  intro a ha
  obtain ⟨hname, hvalue⟩ := h a ha
  exact ((hname.beside fun _ => rfl).beside hvalue).beside fun _ => rfl

theorem Requirement.balanced_toRequirement {r : Requirement} (h : r.Balanced) :
    r.toRequirement.Balanced := by
  cases r with
  | docker image =>
    have hkind : Opens 0 "docker" := fun _ => rfl
    refine ⟨hkind, Value.AllTexts.opens_text h, ?_⟩
    intro v hv
    rw [settings_toRequirement] at hv
    cases hv
  | environment settings =>
    have hlist : (Value.list (settings.map fun v => .list [v.1, v.2])).Balanced := by
      refine Value.allTexts_list_iff.mpr (List.forall_mem_map.mpr fun v hv => ?_)
      rw [Value.allTexts_list_iff, List.forall_mem_cons, List.forall_mem_singleton]
      exact h v hv
    have hkind : Opens 0 "envVar" := fun _ => rfl
    refine ⟨hkind, hlist.opens_text, ?_⟩
    intro v hv
    rw [settings_toRequirement] at hv
    cases hv
    refine opens_assignmentsText (List.forall_mem_map.mpr ?_)
    intro setting hsetting
    exact ⟨(h setting hsetting).1.opens_text, (h setting hsetting).2.opens_text⟩

/-! ### Tools -/

theorem opens_readBase {v base : Value} (hv : v.Balanced) (h : Wdl.Command.readBase v = .ok base) :
    Opens 0 base.text := by
  cases v with
  | list words =>
    obtain ⟨s, hs, h⟩ := bind_eq_ok_iff.mp h
    cases h
    exact hv.opens_join rfl hs
  | _ =>
    cases h
    exact hv.opens_text

/-- Parameters that are read one by one from a balanced value are read from balanced items. -/
theorem exists_balanced_of_mem_read {α : Type} {read : Value → Report α} {v : Value}
    (hv : v.Balanced)
    (hname : ∀ item x, (read item).outcome = .ok x → ∃ name, parameterName item = .ok name)
    {xs : List α} (h : (do (← v.items).mapM read : Report (List α)).outcome = .ok xs) {x : α}
    (hx : x ∈ xs) :
    ∃ item, item.Balanced ∧ (read item).outcome = .ok x := by
  rw [Logged.outcome_bind, Logged.outcome_lift] at h
  obtain ⟨items, hitems, h⟩ := bind_eq_ok_iff.mp h
  rw [Logged.outcome_mapM] at h
  obtain ⟨item, hitem, hread⟩ := exists_of_mem_mapM h hx
  obtain ⟨name, hname⟩ := hname item x hread
  obtain ⟨id, hid, -⟩ := parameterName_eq_ok hname
  exact ⟨item, hv.of_mem_items hitems hitem hid, hread⟩

/-- The task of a tool whose document and imported files are balanced. -/
theorem Tool.balanced_toTask {ws : Workspace} {bound : Nat} {sourceDir tool : Value} {t : Tool}
    (htool : tool.Balanced)
    (himported : ∀ entries value, Requirement.entriesOf tool = .ok entries →
      ImportsValue ws sourceDir entries value → value.Balanced)
    (h : (Tool.read ws bound sourceDir tool).outcome = .ok t) {base : Value}
    (hbase : Wdl.Command.readBase t.baseCommand = .ok base) {bindings : List Binding}
    (hbindings : t.arguments = bindings.map .bound) :
    (t.toTask base (bindings.map (·.toArgument))).Balanced := by
  obtain ⟨hname, harguments, hcommand, ⟨inputs, hin, hinputs⟩, ⟨outputs, hout, houtputs⟩,
    hrequirements, hstdout, -⟩ := Tool.read_eq_ok_iff.mp h
  have hinputs : ∀ i ∈ t.inputs.map (·.toInput), i.Balanced := by
    refine List.forall_mem_map.mpr fun p hp => ?_
    obtain ⟨source, hsource, hp⟩ := exists_balanced_of_mem_read (htool.get hin)
      (fun _ _ hread => ⟨_, (InputParameter.read_eq_ok hread).1⟩) hinputs hp
    exact InputParameter.balanced_toInput hsource hp
  refine {
    name := ?name
    base := ?base
    arguments := ?arguments
    commandInputs := hinputs
    inputs := hinputs
    outputs := ?outputs
    requirements := ?requirements
    stdout := ?stdout }
  case name =>
    refine opens_partName htool (fun s hs => ?_) hname
    obtain ⟨command, hcommand, hs⟩ := bind_eq_ok_iff.mp hs
    exact (htool.get hcommand).opens_join rfl hs
  case base => exact opens_readBase (htool.get hcommand) hbase
  case arguments =>
    refine List.forall_mem_map.mpr fun b hb => ?_
    have hbalanced : b.Balanced :=
      Argument.balanced_of_readOf htool harguments (hbindings ▸ List.mem_map_of_mem hb)
    exact ⟨hbalanced.flag.opens_text, hbalanced.value.opens_text⟩
  case outputs =>
    refine List.forall_mem_map.mpr fun p hp => ?_
    obtain ⟨source, hsource, hp⟩ := exists_balanced_of_mem_read (htool.get hout)
      (fun _ _ hread => ⟨_, (OutputParameter.read_eq_ok hread).1⟩) houtputs hp
    exact OutputParameter.balanced_toOutput hsource hp
  case requirements =>
    refine List.forall_mem_map.mpr fun r hr => Requirement.balanced_toRequirement ?_
    exact Requirement.balanced_of_readPart htool himported hrequirements r hr
  case stdout =>
    refine opens_ofText? fun s hs => opens_readStream htool (fun s => ?_) hstdout hs
    rw [braces_safeName, braces_dropReference]

/-- The text of a tool is balanced if the tool and the files that its requirements import are. -/
theorem Tool.balanced_wdl {ws : Workspace} {bound : Nat} {sourceDir tool : Value} {t : Tool}
    (htool : tool.Balanced)
    (himported : ∀ entries value, Requirement.entriesOf tool = .ok entries →
      ImportsValue ws sourceDir entries value → value.Balanced)
    (h : (Tool.read ws bound sourceDir tool).outcome = .ok t) {text : String}
    (htext : t.wdl = .ok text) : Text.Balanced text := by
  obtain ⟨task, htask, htext⟩ := bind_eq_ok_iff.mp htext
  obtain ⟨base, bindings, hbase, hbindings, rfl⟩ := Tool.eq_toTask_of_ofRecord htask
  have htask := Tool.balanced_toTask htool himported h hbase hbindings
  exact balanced_iff_opens.mpr (Wdl.Task.opens_text htask htext)

/-- A document that holds a tool is written with balanced braces if every text in it and in the
requirement files that it imports is balanced. -/
theorem Document.tool_text_balanced {ws : Workspace} {bound : Nat} {path : String}
    {fields : List (String × Value)} {d : Document} (hfile : ws.read path = .ok (.mapping fields))
    (hclass : fields.lookup "class" = some (.str "CommandLineTool"))
    (hbalanced : (Value.mapping fields).Balanced)
    (himported : ∀ entries value, Requirement.entriesOf (.mapping fields) = .ok entries →
      ImportsValue ws (.str (ws.directoryOf path)) entries value → value.Balanced)
    (h : (Document.read ws bound path).outcome = .ok d) :
    ∃ t, d = ⟨some [t], none⟩ ∧ ∀ text, t.wdl = .ok text → Text.Balanced text := by
  obtain ⟨t, depth, rfl, ht⟩ := Document.read_tool_eq_ok hfile hclass h
  exact ⟨t, rfl, fun text htext => Tool.balanced_wdl hbalanced himported ht htext⟩

def bracedFields : List (String × Value) :=
  [("class", .str "CommandLineTool"), ("id", .str "#awk"),
   ("baseCommand", .list [.str "awk", .str "\x7bprint \x7b\x7d\x7d"]),
   ("inputs", .list [.mapping [("id", .str "#lines"), ("type", .str "string"),
     ("default", .mapping [("\x7bfirst\x7d", .list [.str "\x7b\x7d"])])]]),
   ("outputs", .list []), ("stdout", .str "$(inputs.\x7bout\x7d)"),
   ("requirements", .list [.mapping [("$import", .str "r.cwl")]])]

def bracedSample : Workspace where
  files := [
    (["t.cwl"], .mapping bracedFields),
    (["r.cwl"], .list [
      .mapping [("class", .str "DockerRequirement"), ("dockerPull", .str "img:\x7btag\x7d")],
      .mapping [("class", .str "EnvVarRequirement"), ("envDef", .list [
        .mapping [("envName", .str "OPENED"), ("envValue", .str "a\x7bb\x7d")]])]])]
  directory := []

def bracedTool : Tool where
  name := "awk"
  baseCommand := .list [.str "awk", .str "\x7bprint \x7b\x7d\x7d"]
  arguments := []
  inputs := [⟨"lines", .single .string, true, .null, .null, .null,
    some "\x7b'\x7bfirst\x7d': ['\x7b\x7d']\x7d"⟩]
  outputs := []
  requirements := [.docker (.str "img:\x7btag\x7d"),
    .environment [(.str "OPENED", .str "a\x7bb\x7d")]]
  stdin := none
  stdout := some "\x7bout\x7d"

theorem Document.tool_text_balanced_bracedSample :
    (Value.mapping bracedFields).Balanced ∧
      (Document.read bracedSample 2 "t.cwl").outcome = .ok ⟨some [bracedTool], none⟩ ∧
      ∃ text, bracedTool.wdl = .ok text ∧ Text.Balanced text := by
  have hfiles : ∀ f ∈ bracedSample.files, f.2.Balanced := by decide
  have hbalanced : (Value.mapping bracedFields).Balanced := hfiles _ List.mem_cons_self
  have hread : (Document.read bracedSample 2 "t.cwl").outcome = .ok ⟨some [bracedTool], none⟩ := rfl
  have hwdl : ∃ text, bracedTool.wdl = .ok text := ⟨_, rfl⟩
  obtain ⟨t, ht, htexts⟩ := Document.tool_text_balanced rfl rfl hbalanced
    (fun _ _ _ himported => himported.balanced hfiles) hread
  cases ht
  obtain ⟨text, htext⟩ := hwdl
  exact ⟨hbalanced, hread, text, htext, htexts text htext⟩

end Cwl

end FlowConverter
