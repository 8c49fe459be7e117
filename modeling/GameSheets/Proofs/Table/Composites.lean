/-
  The grammar of composites.

  A cell lists a number for each of three keys:

    composite  ( list )  |  list         no second reading where both parentheses are there
    list       parts in any order, with commas and white space around them
    part       key = number

  1. Every text is laid out in one way (`laidOut_iff`): its parts are what stands between commas and
     white space.  Likewise it has one inside (`opens_iff`).
  2. The scan over the parts keeps the keys that it has seen; it ends where each part assigns a
     number to a key that is neither seen nor assigned by another (`distinctKeys_iff`, by induction
     on the parts).  With as many parts as there are keys, each key is then assigned once.
  3. So whether a cell is accepted depends on its parts alone, and not on their order; and a part
     never starts with a parenthesis, so that parentheses can be put around an accepted list, once.
-/
import GameSheets.Proofs.Number.Literals
import GameSheets.Table.Literal

namespace GameSheets

namespace Composite

/-! ## Layouts -/

/-- A text without separators that is not empty. -/
structure IsPart (part : List Char) : Prop where
  ne_nil : part ≠ []
  not_isSeparator : ∀ c ∈ part, isSeparator c = false

/-- The text has these parts in order, with separators around them and one at least between two. -/
inductive LaidOut : List (List Char) → List Char → Prop
  | nil : LaidOut [] []
  | gap {c : Char} {parts : List (List Char)} {text : List Char} (hc : isSeparator c = true)
      (h : LaidOut parts text) : LaidOut parts (c :: text)
  | part {part : List Char} {parts : List (List Char)} {text : List Char} (hpart : IsPart part)
      (hend : ∀ c ∈ text.head?, isSeparator c = true) (h : LaidOut parts text) :
      LaidOut (part :: parts) (part ++ text)

/-- Every text is laid out in some way. -/
theorem exists_laidOut (text : List Char) : ∃ parts, LaidOut parts text := by
  induction text with
  | nil => exact ⟨[], .nil⟩
  | cons c rest ih =>
    obtain ⟨parts, h⟩ := ih
    by_cases hc : isSeparator c = true
    · exact ⟨parts, .gap hc h⟩
    · rw [Bool.not_eq_true] at hc
      have hsingle : IsPart [c] := ⟨nofun, by simpa using hc⟩
      cases h with
      | nil => exact ⟨[[c]], .part hsingle nofun .nil⟩
      | gap hgap hrest =>
        refine ⟨[c] :: parts, .part hsingle ?_ (.gap hgap hrest)⟩
        rintro d ⟨⟩
        exact hgap
      | @part part others text hpart hend hrest =>
        -- the character stands in front of the first part
        refine ⟨(c :: part) :: others, .part ⟨nofun, ?_⟩ hend hrest⟩
        exact List.forall_mem_cons.mpr ⟨hc, hpart.not_isSeparator⟩

/-- The parts of a text are its pieces between separators, less the empty ones. -/
theorem LaidOut.parts_eq {parts : List (List Char)} {text : List Char} (h : LaidOut parts text) :
    parts = (Text.pieces isSeparator text).filter (· ≠ []) := by
  induction h with
  | nil => rfl
  | gap hc _ ih => rw [ih, Text.pieces, if_pos hc, List.filter_cons_of_neg (by simp)]
  | @part part parts text hpart hend _ ih =>
    have hpieces : Text.pieces isSeparator part = [part] :=
      Text.pieces_of_forall_not hpart.not_isSeparator
    have hkept : [part].filter (· ≠ []) = [part] := by simp [hpart.ne_nil]
    cases text with
    | nil => rw [ih, List.append_nil, hpieces, hkept]; rfl
    | cons c rest =>
      have hc := hend c rfl
      rw [ih, Text.pieces_append_cons hc, hpieces, List.filter_append, hkept, Text.pieces,
        if_pos hc, List.filter_cons_of_neg (by simp), List.singleton_append]

theorem laidOut_iff {parts : List (List Char)} {text : List Char} :
    LaidOut parts text ↔ parts = (Text.pieces isSeparator text).filter (· ≠ []) := by
  constructor
  · exact LaidOut.parts_eq
  · rintro rfl
    obtain ⟨parts, h⟩ := exists_laidOut text
    rwa [← h.parts_eq]

/-- What is no separator at the front of a text stands at the front of its first part. -/
theorem LaidOut.exists_first {parts : List (List Char)} {c : Char} {rest : List Char}
    (h : LaidOut parts (c :: rest)) (hc : isSeparator c = false) :
    ∃ part others, parts = (c :: part) :: others := by
  generalize htext : c :: rest = text at h
  cases h with
  | nil => cases htext
  | gap hgap =>
    obtain ⟨rfl, -⟩ := List.cons.inj htext
    rw [hc] at hgap
    cases hgap
  | @part part others text hpart =>
    cases part with
    | nil => exact absurd rfl hpart.ne_nil
    | cons d part =>
      obtain ⟨rfl, -⟩ := List.cons.inj htext
      exact ⟨part, others, rfl⟩

/-! ## Parentheses -/

/-- The text between an opening parenthesis and a closing one. -/
def enclosed (inner : List Char) : List Char :=
  '(' :: (inner ++ [')'])

/-- What stands in a text: all of it, unless it is enclosed. -/
inductive Opens : List Char → List Char → Prop
  | enclosed (inner : List Char) : Opens (enclosed inner) inner
  | bare {text : List Char} (h : ∀ inner, text ≠ Composite.enclosed inner) : Opens text text

theorem opens_iff {text inner : List Char} :
    Opens text inner ↔ inner = withoutParentheses text := by
  have hopens : ∀ {text inner : List Char}, Opens text inner →
      inner = withoutParentheses text := by
    intro text inner h
    cases h with
    | enclosed =>
      simp only [enclosed, withoutParentheses, List.getLast?_concat, List.dropLast_concat, if_true]
    | bare hbare =>
      unfold withoutParentheses
      split
      · rename_i rest
        rw [if_neg]
        intro hlast
        obtain ⟨init, hinit⟩ := List.getLast?_eq_some_iff.mp hlast
        exact hbare init (congrArg _ hinit)
      · rfl
  constructor
  · exact hopens
  · rintro rfl
    by_cases henclosed : ∃ inner, text = enclosed inner
    · obtain ⟨inner, rfl⟩ := henclosed
      rw [← hopens (.enclosed inner)]
      exact .enclosed inner
    · have hbare := Opens.bare (not_exists.mp henclosed)
      rwa [← hopens hbare]

/-! ## Keys -/

/-- The part assigns a number to the key. -/
def Assigns (key : Char) (part : List Char) : Prop :=
  ∃ number, Number.IsLiteral number ∧ part = key :: '=' :: number

/-- The text lists a number for each of the keys, in some order and each once. -/
def Lists (keys : List Char) (text : List Char) : Prop :=
  ∃ inner parts order, Opens text inner ∧ LaidOut parts inner ∧ order.Perm keys ∧
    List.Forall₂ Assigns order parts

theorem keyOf?_eq_some_iff {component key : List Char} :
    keyOf? component = some key ↔
      '=' ∉ key ∧ ∃ number, Number.IsLiteral number ∧ component = key ++ '=' :: number := by
  unfold keyOf?
  constructor
  · intro h
    split at h
    · cases h
    · rename_i before number hcut
      split at h
      · rename_i hnumber
        obtain rfl := Option.some.inj h
        obtain ⟨hcomponent, hplain⟩ := Text.splitFirst?_eq_some_iff.mp hcut
        exact ⟨hplain, number, Number.Binary64.isSome_ofText?_iff.mp hnumber, hcomponent⟩
      · cases h
  · rintro ⟨hplain, number, hnumber, rfl⟩
    rw [Text.splitFirst?_eq_some_iff.mpr ⟨rfl, hplain⟩]
    exact if_pos (Number.Binary64.isSome_ofText?_iff.mpr hnumber)

/-- Keys differ, and none of them is an equals sign or a parenthesis. -/
structure AreKeys (keys : List Char) : Prop where
  nodup : keys.Nodup
  equals_not_mem : '=' ∉ keys
  parenthesis_not_mem : '(' ∉ keys

/-- The part has a key of the list that is not seen, exactly where it assigns a number to such a
key. -/
theorem assigns_iff_keyOf? {keys : List Char} (hkeys : AreKeys keys) {seen : List (List Char)}
    {part : List Char} {key : Char} :
    Assigns key part ∧ key ∈ keys ∧ [key] ∉ seen ↔
      keyOf? part = some [key] ∧ key ∈ keys ∧ [key] ∉ seen := by
  rw [keyOf?_eq_some_iff]
  constructor
  · rintro ⟨hassigns, hmem, hfresh⟩
    refine ⟨⟨?_, hassigns⟩, hmem, hfresh⟩
    rw [List.mem_singleton]
    rintro rfl
    exact hkeys.equals_not_mem hmem
  · rintro ⟨⟨-, hassigns⟩, hmem, hfresh⟩
    exact ⟨hassigns, hmem, hfresh⟩

/-- The scan ends where the parts assign numbers to different keys, none of which was seen. -/
theorem distinctKeys_iff {keys : List Char} (hkeys : AreKeys keys) {seen parts : List (List Char)} :
    distinctKeys keys seen parts = true ↔
      ∃ order : List Char, order.Nodup ∧ (∀ key ∈ order, key ∈ keys ∧ [key] ∉ seen) ∧
        List.Forall₂ Assigns order parts := by
  induction parts generalizing seen with
  | nil =>
    rw [distinctKeys]
    simp only [List.forall₂_nil_right_iff, true_iff]
    exact ⟨[], List.nodup_nil, nofun, rfl⟩
  | cons part rest ih =>
    have hstep : distinctKeys keys seen (part :: rest) = true ↔
        ∃ key, (keyOf? part = some [key] ∧ key ∈ keys ∧ [key] ∉ seen) ∧
          distinctKeys keys ([key] :: seen) rest = true := by
      rw [distinctKeys]
      cases hkey : keyOf? part with
      | none => simp
      | some text =>
        simp only [Bool.and_eq_true, List.contains_iff_mem, Bool.not_eq_true', Option.some.injEq]
        constructor
        · rintro ⟨⟨hmem, hfresh⟩, hrest⟩
          obtain ⟨key, hkeyMem, rfl⟩ := List.mem_map.mp hmem
          rw [← Bool.not_eq_true, List.contains_iff_mem] at hfresh
          exact ⟨key, ⟨rfl, hkeyMem, hfresh⟩, hrest⟩
        · rintro ⟨key, ⟨rfl, hkeyMem, hfresh⟩, hrest⟩
          rw [← Bool.not_eq_true, List.contains_iff_mem]
          exact ⟨⟨List.mem_map.mpr ⟨key, hkeyMem, rfl⟩, hfresh⟩, hrest⟩
    rw [hstep]
    simp only [← assigns_iff_keyOf? hkeys, ih]
    constructor
    · rintro ⟨key, ⟨hassigns, hmem, hfresh⟩, order, hnodup, horder, hparts⟩
      refine ⟨key :: order, List.nodup_cons.mpr ⟨?_, hnodup⟩,
        List.forall_mem_cons.mpr ⟨⟨hmem, hfresh⟩, ?_⟩, .cons hassigns hparts⟩
      · intro hkey
        exact (horder key hkey).2 List.mem_cons_self
      · intro other hother
        obtain ⟨hotherMem, hotherFresh⟩ := horder other hother
        exact ⟨hotherMem, fun hseen => hotherFresh (List.mem_cons_of_mem _ hseen)⟩
    · rintro ⟨order, hnodup, horder, hparts⟩
      obtain ⟨key, others, hassigns, hrest, rfl⟩ := List.forall₂_cons_right_iff.mp hparts
      obtain ⟨hkey, hothers⟩ := List.nodup_cons.mp hnodup
      obtain ⟨⟨hmem, hfresh⟩, horder⟩ := List.forall_mem_cons.mp horder
      refine ⟨key, ⟨hassigns, hmem, hfresh⟩, others, hothers, ?_, hrest⟩
      intro other hother
      obtain ⟨hotherMem, hotherFresh⟩ := horder other hother
      refine ⟨hotherMem, ?_⟩
      rw [List.mem_cons, not_or]
      refine ⟨?_, hotherFresh⟩
      rintro ⟨⟩
      exact hkey hother

/-- A text is taken for a composite exactly where it lists a number for each of the keys. -/
theorem lists_eq_true_iff {keys : List Char} (hkeys : AreKeys keys) {text : String} :
    lists keys text = true ↔ Lists keys text.toList := by
  have hparts : LaidOut (components text.toList) (withoutParentheses text.toList) :=
    laidOut_iff.mpr rfl
  unfold lists
  simp only [Bool.and_eq_true, beq_iff_eq, distinctKeys_iff hkeys]
  constructor
  · rintro ⟨⟨order, hnodup, horder, hassigns⟩, hlength⟩
    -- as many different keys as there are keys: each is one of them, so all of them are there
    have hsubset : order ⊆ keys := fun key hkey => (horder key hkey).1
    have hsubperm : order.Subperm keys := List.subperm_of_subset hnodup hsubset
    refine ⟨_, _, order, opens_iff.mpr rfl, hparts, ?_, hassigns⟩
    exact hsubperm.perm_of_length_le (by rw [hassigns.length_eq, hlength])
  · rintro ⟨inner, parts, order, hopens, hlaid, horder, hassigns⟩
    obtain rfl := opens_iff.mp hopens
    obtain rfl : parts = components text.toList := laidOut_iff.mp hlaid
    refine ⟨⟨order, horder.nodup_iff.mpr hkeys.nodup, ?_, hassigns⟩, ?_⟩
    · exact fun key hkey => ⟨horder.mem_iff.mp hkey, List.not_mem_nil⟩
    · rw [← hassigns.length_eq, horder.length_eq]

/-! ## Other layouts of the same parts -/

/-- The parts alone decide, in whatever order they stand. -/
theorem Lists.of_perm {keys text other inner otherInner : List Char}
    {parts otherParts : List (List Char)} (h : Lists keys text) (hopens : Opens text inner)
    (hlaid : LaidOut parts inner) (hotherOpens : Opens other otherInner)
    (hotherLaid : LaidOut otherParts otherInner) (hperm : parts.Perm otherParts) :
    Lists keys other := by
  obtain ⟨found, foundParts, order, hfound, hfoundLaid, horder, hassigns⟩ := h
  obtain rfl := (opens_iff.mp hopens).trans (opens_iff.mp hfound).symm
  obtain rfl := hlaid.parts_eq.trans hfoundLaid.parts_eq.symm
  -- the keys are put into the order of the other parts
  obtain ⟨otherOrder, hotherAssigns, hotherOrder⟩ :=
    List.perm_comp_forall₂ hperm.symm hassigns.flip
  exact ⟨otherInner, otherParts, otherOrder, hotherOpens, hotherLaid, hotherOrder.trans horder,
    hotherAssigns.flip⟩

/-- Where the inside of an enclosed text lists numbers for keys, it is not enclosed itself. -/
theorem Lists.bare_of_enclosed {keys inner : List Char} (hkeys : AreKeys keys)
    (h : Lists keys (enclosed inner)) : ∀ other, inner ≠ enclosed other := by
  obtain ⟨found, parts, order, hopens, hlaid, horder, hassigns⟩ := h
  obtain rfl := (opens_iff.mp hopens).trans (opens_iff.mp (.enclosed inner)).symm
  rintro other rfl
  -- else the first key would be a parenthesis
  obtain ⟨part, others, rfl⟩ := LaidOut.exists_first hlaid (by decide)
  obtain ⟨key, rest, ⟨number, -, hpart⟩, -, rfl⟩ := List.forall₂_cons_right_iff.mp hassigns
  obtain ⟨rfl, -⟩ := List.cons.inj hpart
  exact hkeys.parenthesis_not_mem (horder.mem_iff.mp List.mem_cons_self)

/-- Parentheses say nothing around a text that has none. -/
theorem lists_enclosed_iff {keys text : List Char} (hbare : ∀ inner, text ≠ enclosed inner) :
    Lists keys (enclosed text) ↔ Lists keys text := by
  obtain ⟨parts, hlaid⟩ := exists_laidOut text
  constructor
  · intro h
    exact h.of_perm (.enclosed text) hlaid (.bare hbare) hlaid (.refl parts)
  · intro h
    exact h.of_perm (.bare hbare) hlaid (.enclosed text) hlaid (.refl parts)

end Composite

/-! ## Cells -/

namespace BaseType

variable {symbolsOf? : String → Option (List String)}

/-- The keys of a composite. -/
def keys : BaseType → List Char
  | vector => ['X', 'Y', 'Z']
  | rotator => ['P', 'Y', 'R']
  | int32 | int64 | float | double | string | enumeration _ => []

/-- A text is read as some value of the type. -/
def Accepts (symbolsOf? : String → Option (List String)) (base : BaseType) (text : String) : Prop :=
  ∃ value, base.readLiteral symbolsOf? text = .ok value

theorem areKeys {base : BaseType} (h : base.isComposite = true) : Composite.AreKeys base.keys := by
  cases base with
  | vector | rotator => exact ⟨by decide, by decide, by decide⟩
  | int32 | int64 | float | double | string | enumeration _ => cases h

/-- A composite is read as the text that is there, where this lists numbers for the keys. -/
theorem readLiteral_composite {base : BaseType} (h : base.isComposite = true) (text : String) :
    base.readLiteral symbolsOf? text =
      if Composite.lists base.keys text = true then .ok (.composite text)
      else .error .invalid := by
  cases base with
  | vector | rotator =>
    show LiteralFault.orInvalid (if _ then some _ else none) = _
    split
    · rename_i hlists
      exact (if_pos hlists).symm
    · rename_i hlists
      exact (if_neg hlists).symm
  | int32 | int64 | float | double | string | enumeration _ => cases h

theorem accepts_composite_iff {base : BaseType} (h : base.isComposite = true) {text : String} :
    base.Accepts symbolsOf? text ↔ Composite.Lists base.keys text.toList := by
  rw [← Composite.lists_eq_true_iff (areKeys h), Accepts, readLiteral_composite h]
  split
  · rename_i hlists
    exact ⟨fun _ => hlists, fun _ => ⟨_, rfl⟩⟩
  · rename_i hlists
    exact ⟨fun ⟨_, hread⟩ => (nomatch hread), fun hlisted => absurd hlisted hlists⟩

/-- Texts are accepted where they list a number for each key in some order, and others are invalid.
A text with the same parts is accepted too, in whatever order they stand, whatever separates them
and whether there are parentheses; in particular parentheses can be put around an accepted text that
has none, and taken off one that has them. -/
structure ReadsComposites (symbolsOf? : String → Option (List String)) (base : BaseType) :
    Prop where
  accepts_iff : ∀ text : String,
    base.Accepts symbolsOf? text ↔ Composite.Lists base.keys text.toList
  invalid_iff : ∀ text : String,
    base.readLiteral symbolsOf? text = .error .invalid ↔ ¬ Composite.Lists base.keys text.toList
  accepts_iff_of_perm : ∀ (text other : String) inner otherInner parts otherParts,
    Composite.Opens text.toList inner → Composite.LaidOut parts inner →
    Composite.Opens other.toList otherInner → Composite.LaidOut otherParts otherInner →
    List.Perm parts otherParts → (base.Accepts symbolsOf? text ↔ base.Accepts symbolsOf? other)
  accepts_enclosed_iff : ∀ text, (∀ inner, text ≠ Composite.enclosed inner) →
    (base.Accepts symbolsOf? (String.ofList (Composite.enclosed text)) ↔
      base.Accepts symbolsOf? (String.ofList text))
  accepts_of_enclosed : ∀ inner,
    base.Accepts symbolsOf? (String.ofList (Composite.enclosed inner)) →
      base.Accepts symbolsOf? (String.ofList inner)

/-- Composites are read by their grammar. -/
theorem readsComposites {base : BaseType} (h : base.isComposite = true)
    (symbolsOf? : String → Option (List String)) : base.ReadsComposites symbolsOf? where
  accepts_iff _ := accepts_composite_iff h
  invalid_iff text := by
    rw [← Composite.lists_eq_true_iff (areKeys h), readLiteral_composite h]
    split
    · rename_i hlists
      exact ⟨nofun, fun hnot => absurd hlists hnot⟩
    · rename_i hlists
      exact ⟨fun _ => hlists, fun _ => rfl⟩
  accepts_iff_of_perm text other inner otherInner parts otherParts hopens hlaid hotherOpens
      hotherLaid hperm := by
    rw [accepts_composite_iff h, accepts_composite_iff h]
    constructor
    · intro hlists
      exact hlists.of_perm hopens hlaid hotherOpens hotherLaid hperm
    · intro hlists
      exact hlists.of_perm hotherOpens hotherLaid hopens hlaid hperm.symm
  accepts_enclosed_iff text hbare := by
    rw [accepts_composite_iff h, accepts_composite_iff h, String.toList_ofList,
      String.toList_ofList]
    exact Composite.lists_enclosed_iff hbare
  accepts_of_enclosed inner := by
    rw [accepts_composite_iff h, accepts_composite_iff h, String.toList_ofList,
      String.toList_ofList]
    intro hlists
    exact (Composite.lists_enclosed_iff (hlists.bare_of_enclosed (areKeys h))).mp hlists

/-- Separators, parentheses and the order of the keys say nothing; a key that comes twice does. -/
theorem vector_readsComposites :
    vector.isComposite = true ∧ vector.ReadsComposites (fun _ => none) ∧
      vector.Accepts (fun _ => none) "(Z=-3,\tX=+1e5 ,Y=inf)" ∧
      vector.Accepts (fun _ => none) "X=+1e5 Y=inf,,Z=-3" ∧
      vector.Accepts (fun _ => none) "(X=+1e5 Y=inf,,Z=-3)" ∧
      ¬ Composite.Lists ['X', 'Y', 'Z'] "(X=1,Y=2,X=3)".toList := by
  have hreads := readsComposites (show vector.isComposite = true from rfl) fun _ => none
  have hgiven : vector.Accepts (fun _ => none) "(Z=-3,\tX=+1e5 ,Y=inf)" := by
    rw [Accepts, readLiteral_composite rfl]
    exact ⟨_, if_pos (by decide +kernel)⟩
  have hopens : Composite.Opens "(Z=-3,\tX=+1e5 ,Y=inf)".toList "Z=-3,\tX=+1e5 ,Y=inf".toList :=
    Composite.opens_iff.mpr (by decide)
  have hbare : ∀ inner, "X=+1e5 Y=inf,,Z=-3".toList ≠ Composite.enclosed inner := by
    intro inner h
    exact absurd (List.cons.inj h).1 (by decide)
  have hturned : vector.Accepts (fun _ => none) "X=+1e5 Y=inf,,Z=-3" :=
    (hreads.accepts_iff_of_perm _ _ _ _ _ _ hopens (Composite.laidOut_iff.mpr rfl) (.bare hbare)
      (Composite.laidOut_iff.mpr rfl) (by decide)).mp hgiven
  have henclosed : vector.Accepts (fun _ => none) "(X=+1e5 Y=inf,,Z=-3)" :=
    (hreads.accepts_enclosed_iff _ hbare).mpr hturned
  have hinvalid : vector.readLiteral (fun _ => none) "(X=1,Y=2,X=3)" = .error .invalid := by
    decide +kernel
  exact ⟨rfl, hreads, hgiven, hturned, henclosed, (hreads.invalid_iff _).mp hinvalid⟩

end BaseType

end GameSheets
