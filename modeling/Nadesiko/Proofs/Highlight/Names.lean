import Mathlib
import Nadesiko.Proofs.Highlight.Lookup
import Nadesiko.Server.Wire

/-!
# What a client reads out of a buffer

A buffer holds indices and bits, and a client turns them into names with the two lists that it was
told. The names are those of the token's classification, because a legend is searched from the
front on both ways: a repeated entry is never written, and so it is never read.

A legend that lacks a category or a modifier leaves out the tokens that need it and no others. So
what is read with any legend is what is read with the standard one, without the entries for which a
name is missing.
-/

namespace Nadesiko

open Text

/-- An entry with names instead of an index and bits. -/
structure NamedEntry where
  start : Position
  length : Nat
  category : String
  modifiers : Finset String
deriving DecidableEq

namespace Legend

/-- The names of the categories, in the order in which a client is told them. -/
def categoryNames (legend : Legend) : List String := legend.categories.map Category.name

/-- The names of the modifiers, in the order in which a client is told them. -/
def modifierNames (legend : Legend) : List String := legend.modifiers.map Modifier.name

/-- The names of the modifiers whose bits are set. -/
def namesAt (legend : Legend) (bits : Nat) : Finset String :=
  ((legend.modifierNames.zipIdx.filter (fun named => bits.testBit named.2)).map Prod.fst).toFinset

/-- An entry as a client reads it. There is no name at an index beyond the legend. -/
def read? (legend : Legend) (entry : Entry) : Option NamedEntry :=
  legend.categoryNames[entry.category]?.map
    (fun name => ⟨entry.start, entry.length, name, legend.namesAt entry.modifiers⟩)

/-- The category and all modifiers of an entry occur in a legend. -/
def Knows (legend : Legend) (entry : NamedEntry) : Prop :=
  entry.category ∈ legend.categoryNames ∧ ∀ name ∈ entry.modifiers, name ∈ legend.modifierNames

instance (legend : Legend) (entry : NamedEntry) : Decidable (legend.Knows entry) :=
  inferInstanceAs (Decidable (_ ∧ _))

end Legend

/-- What is to be read of a token: its segments with the names of its classification, whatever the
legend. -/
def Token.namedEntries (lineLengths : List Nat) (token : Token) : List NamedEntry :=
  match token.kind.classification? with
  | none => []
  | some c =>
    (token.segments (token.kind.excludesParticle c) lineLengths).map (fun segment =>
      ⟨segment.start, segment.length, c.category.name, (c.modifiers.map Modifier.name).toFinset⟩)

theorem Category.name_injective : Function.Injective Category.name := by
  have hall : ∀ c ∈ all, ∀ d ∈ all, c.name = d.name → c = d := by decide
  intro c d h
  exact hall c (mem_all c) d (mem_all d) h

theorem Modifier.name_injective : Function.Injective Modifier.name := by
  have hall : ∀ m ∈ all, ∀ n ∈ all, m.name = n.name → m = n := by decide
  intro m n h
  exact hall m (mem_all m) n (mem_all n) h

namespace Legend

variable {legend : Legend}

/-! ## Indices and bits are read back -/

theorem testBit_foldl_or (positions : List Nat) (bits i : Nat) :
    (positions.foldl (fun bits position => bits ||| 1 <<< position) bits).testBit i = true
      ↔ bits.testBit i = true ∨ i ∈ positions := by
  induction positions generalizing bits with
  | nil => simp
  | cons position positions ih =>
      rw [List.foldl_cons, ih, Nat.testBit_or, Nat.one_shiftLeft, Nat.testBit_two_pow,
        Bool.or_eq_true, decide_eq_true_eq, List.mem_cons, or_assoc]
      exact or_congr_right (or_congr_left eq_comm)

/-- The bits that are set are those at the first indices of the modifiers. -/
theorem testBit_bits {modifiers : List Modifier} {i : Nat} :
    (legend.bits modifiers).testBit i = true
      ↔ ∃ m ∈ modifiers, legend.modifiers.idxOf m = i := by
  have hmap : legend.bits modifiers = (modifiers.map (legend.modifiers.idxOf ·)).foldl
      (fun bits position => bits ||| 1 <<< position) 0 := by
    rw [bits, List.foldl_map]
  rw [hmap, testBit_foldl_or, Nat.zero_testBit, List.mem_map]
  simp

theorem mem_namesAt_iff {bits : Nat} {name : String} :
    name ∈ legend.namesAt bits
      ↔ ∃ i, bits.testBit i = true ∧ legend.modifierNames[i]? = some name := by
  unfold namesAt
  rw [List.mem_toFinset, List.mem_map]
  constructor
  · rintro ⟨⟨name', i⟩, hmem, rfl⟩
    obtain ⟨hat, hbit⟩ := List.mem_filter.mp hmem
    exact ⟨i, hbit, List.mem_zipIdx_iff_getElem?.mp hat⟩
  · rintro ⟨i, hbit, hat⟩
    exact ⟨(name, i), List.mem_filter.mpr ⟨List.mem_zipIdx_iff_getElem?.mpr hat, hbit⟩, rfl⟩

theorem getElem?_modifierNames {m : Modifier} (h : m ∈ legend.modifiers) :
    legend.modifierNames[legend.modifiers.idxOf m]? = some m.name := by
  rw [modifierNames, List.getElem?_map,
    List.getElem?_eq_getElem (List.idxOf_lt_length_of_mem h), List.getElem_idxOf]
  rfl

theorem getElem?_categoryNames {c : Category} (h : c ∈ legend.categories) :
    legend.categoryNames[legend.categories.idxOf c]? = some c.name := by
  rw [categoryNames, List.getElem?_map,
    List.getElem?_eq_getElem (List.idxOf_lt_length_of_mem h), List.getElem_idxOf]
  rfl

/-- **The bits of modifiers that a legend has are read back as the names of these modifiers.** -/
theorem namesAt_bits {modifiers : List Modifier} (h : ∀ m ∈ modifiers, m ∈ legend.modifiers) :
    legend.namesAt (legend.bits modifiers) = (modifiers.map Modifier.name).toFinset := by
  ext name
  rw [mem_namesAt_iff, List.mem_toFinset, List.mem_map]
  constructor
  · rintro ⟨i, hbit, hname⟩
    obtain ⟨m, hm, rfl⟩ := testBit_bits.mp hbit
    rw [getElem?_modifierNames (h m hm), Option.some.injEq] at hname
    exact ⟨m, hm, hname⟩
  · rintro ⟨m, hm, rfl⟩
    exact ⟨_, testBit_bits.mpr ⟨m, hm, rfl⟩, getElem?_modifierNames (h m hm)⟩

/-- A legend has the names of exactly the classifications that it lists. -/
theorem knows_iff_lists {c : Classification} {start : Position} {length : Nat} :
    legend.Knows ⟨start, length, c.category.name, (c.modifiers.map Modifier.name).toFinset⟩
      ↔ legend.Lists c := by
  unfold Knows Lists categoryNames modifierNames
  dsimp only
  rw [List.mem_map_of_injective Category.name_injective]
  refine and_congr_right' ?_
  constructor
  · intro h m hm
    have hname := h m.name (List.mem_toFinset.mpr (List.mem_map_of_mem hm))
    exact (List.mem_map_of_injective Modifier.name_injective).mp hname
  · intro h name hname
    obtain ⟨m, hm, rfl⟩ := List.mem_map.mp (List.mem_toFinset.mp hname)
    exact List.mem_map_of_mem (h m hm)

/-- An entry with the index and the bits of a classification is read with its names. -/
theorem read?_of_lists {c : Classification} (h : legend.Lists c) (start : Position)
    (length : Nat) :
    legend.read? ⟨start, length, legend.categories.idxOf c.category, legend.bits c.modifiers⟩
      = some ⟨start, length, c.category.name, (c.modifiers.map Modifier.name).toFinset⟩ := by
  unfold read?
  dsimp only
  rw [getElem?_categoryNames h.1, namesAt_bits h.2]
  rfl

end Legend

/-! ## What is read of tokens -/

namespace Token

variable {legend : Legend} {lineLengths : List Nat}

/-- **A token is read with the names of its classification, or not at all if one is missing.** -/
theorem map_read?_highlight (legend : Legend) (lineLengths : List Nat) (token : Token) :
    (token.highlight lineLengths legend).map legend.read?
      = ((token.namedEntries lineLengths).filter (fun entry => legend.Knows entry)).map some := by
  unfold highlight namedEntries
  cases token.kind.classification? with
  | none => rfl
  | some c =>
      by_cases hc : legend.Lists c
      · have hall : ∀ segment : Segment, legend.Knows
            ⟨segment.start, segment.length, c.category.name,
              (c.modifiers.map Modifier.name).toFinset⟩ :=
          fun _ => Legend.knows_iff_lists.mpr hc
        simp [hc, hall, List.filter_map, Function.comp_def, Legend.read?_of_lists hc]
      · have hnone : ∀ segment : Segment, ¬ legend.Knows
            ⟨segment.start, segment.length, c.category.name,
              (c.modifiers.map Modifier.name).toFinset⟩ :=
          fun _ hknows => hc (Legend.knows_iff_lists.mp hknows)
        simp [hc, hnone, List.filter_map, Function.comp_def]

theorem map_read?_flatMap_highlight (legend : Legend) (lineLengths : List Nat)
    (tokens : List Token) :
    (tokens.flatMap (highlight lineLengths legend)).map legend.read?
      = ((tokens.flatMap (namedEntries lineLengths)).filter
        (fun entry => legend.Knows entry)).map some := by
  rw [List.map_flatMap, List.filter_flatMap, List.map_flatMap]
  refine List.flatMap_congr ?_
  intro token _
  exact map_read?_highlight legend lineLengths token

/-- Every entry refers to places that the legend has. -/
theorem within_legend_of_mem_highlight {token : Token} {entry : Entry}
    (h : entry ∈ token.highlight lineLengths legend) :
    entry.category < legend.categories.length
      ∧ ∀ bit, entry.modifiers.testBit bit = true → bit < legend.modifiers.length := by
  obtain ⟨c, _, hlists, hcategory, hmodifiers, _⟩ := mem_highlight_iff.mp h
  rw [hcategory, hmodifiers]
  refine ⟨List.idxOf_lt_length_of_mem hlists.1, ?_⟩
  intro bit hbit
  obtain ⟨m, hm, rfl⟩ := Legend.testBit_bits.mp hbit
  exact List.idxOf_lt_length_of_mem (hlists.2 m hm)

theorem knows_standard (entry : NamedEntry) {token : Token}
    (h : entry ∈ token.namedEntries lineLengths) : Legend.standard.Knows entry := by
  unfold namedEntries at h
  cases hc : token.kind.classification? with
  | none =>
      rw [hc] at h
      cases h
  | some c =>
      rw [hc] at h
      obtain ⟨segment, _, rfl⟩ := List.mem_map.mp h
      exact Legend.knows_iff_lists.mpr (Legend.lists_standard c)

end Token

end Nadesiko
