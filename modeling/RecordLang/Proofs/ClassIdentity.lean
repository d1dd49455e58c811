import RecordLang.Proofs.Regime.Evaluation

/-!
Every class has one path.

Classes come into the registry one at a time or as the variants of a group, and a definition that is
evaluated again, or under a name in use, puts new classes in the place of others. Each of them gets a
number that no class had before, so no class ever stands in two places of the registry: two paths never
name the same class, and no value matches the class patterns of two paths.

* `Registry.classAt`: the class in a place of the registry.
* `Registry.Numbered`: classes have different numbers in different places, all below a bound.
* `Registry.Numbered.insert`: a new entry takes new numbers.
* `classNumbers`: the regime in which registries are numbered.
* `class_identity_unambiguous`: the main statement.
-/

namespace RecordLang

/-! ### Places of the registry -/

/-- The class that an entry has under the rest of a path: itself, or a variant. -/
def TypeEntry.classAt : TypeEntry → List String → Option Class
  | .ofClass c, [] => some c
  | .ofGroup g, [variant] => g.variants.find? variant
  | _, _ => none

/-- The class in a place of the registry. -/
def Registry.classAt (types : Registry) : List String → Option Class
  | [] => none
  | name :: rest => (types.find? name).bind fun entry => entry.classAt rest

/-- A variant that is found is the class in a place of two segments. -/
lemma Registry.classAt_of_resolveVariant {types : Registry} {group variant : String}
    {span : Option Span} {c : Class} (h : types.resolveVariant group variant span = .ok c) :
    types.classAt [group, variant] = some c := by
  rw [Registry.resolveVariant] at h
  split at h
  · next g hg =>
      split at h
      · next d hd =>
          cases h
          rw [Registry.classAt, hg, Option.bind_some]
          exact hd
      · cases h
  · cases h
  · cases h

/-- A path stands for the class in the place that its segments name. -/
lemma Registry.classAt_of_resolve {types : Registry} {path : TypePath} {c : Class}
    (h : types.resolve path = .ok (.ofClass c)) : types.classAt path.segments = some c := by
  rw [Registry.resolve] at h
  split at h
  · next name hsegments =>
      split at h
      · next entry hentry =>
          cases h
          rw [hsegments, Registry.classAt, hentry, Option.bind_some]
          rfl
      · cases h
  · next group variant hsegments =>
      split at h
      · next d hd =>
          cases h
          rw [hsegments]
          exact Registry.classAt_of_resolveVariant hd
      · cases h
  · cases h

lemma Registry.resolveClass_eq_ok_iff {types : Registry} {path : TypePath} {c : Class} :
    types.resolveClass path = .ok c ↔ types.resolve path = .ok (.ofClass c) := by
  rw [Registry.resolveClass]
  rcases types.resolve path with e | d | g <;> simp

lemma Registry.classAt_of_resolveClass {types : Registry} {path : TypePath} {c : Class}
    (h : types.resolveClass path = .ok c) : types.classAt path.segments = some c :=
  Registry.classAt_of_resolve (Registry.resolveClass_eq_ok_iff.mp h)

/-- A new entry fills the places under its name and no others. -/
lemma Registry.classAt_insert (types : Registry) (name x : String) (entry : TypeEntry)
    (rest : List String) :
    Registry.classAt (types.insert name entry) (x :: rest) =
      if x = name then entry.classAt rest else types.classAt (x :: rest) := by
  rw [Registry.classAt, Registry.classAt, Table.find?_insert]
  split <;> rfl

/-! ### Numbers -/

/-- The classes of an entry have numbers from `n` up to `m`, different ones in different places. -/
structure TypeEntry.Numbered (n m : Nat) (entry : TypeEntry) : Prop where
  bounds : ∀ rest c, entry.classAt rest = some c → n ≤ c.id ∧ c.id < m
  unique : ∀ rest rest' c c', entry.classAt rest = some c → entry.classAt rest' = some c' →
    c.id = c'.id → rest = rest'

/-- The registered classes have numbers below `n`, different ones in different places. -/
structure Registry.Numbered (n : Nat) (types : Registry) : Prop where
  lt : ∀ segments c, types.classAt segments = some c → c.id < n
  unique : ∀ segments segments' c c', types.classAt segments = some c →
    types.classAt segments' = some c' → c.id = c'.id → segments = segments'

lemma Registry.numbered_empty : Registry.Numbered 0 .empty := by
  have hnone : ∀ segments, Registry.classAt .empty segments = none := by
    intro segments
    cases segments with
    | nil => rfl
    | cons name rest => rw [Registry.classAt, Table.find?_empty, Option.bind_none]
  refine ⟨fun segments c h => ?_, fun segments segments' c c' h => ?_⟩
  · rw [hnone] at h
    cases h
  · rw [hnone] at h
    cases h

lemma Registry.Numbered.mono {n m : Nat} {types : Registry} (h : types.Numbered n) (hle : n ≤ m) :
    types.Numbered m :=
  ⟨fun segments c hc => (h.lt segments c hc).trans_le hle, h.unique⟩

/-- An entry with numbers that were not handed out before can be registered under any name. -/
lemma Registry.Numbered.insert {n m : Nat} {types : Registry} (h : types.Numbered n) {entry : TypeEntry}
    (hentry : entry.Numbered n m) (hle : n ≤ m) (name : String) :
    Registry.Numbered m (types.insert name entry) := by
  -- a class of the registry stands under the new name and has a new number, or it stood there before
  have hplace : ∀ segments c, Registry.classAt (types.insert name entry) segments = some c →
      (∃ rest, segments = name :: rest ∧ entry.classAt rest = some c) ∨
        types.classAt segments = some c := by
    intro segments c hc
    cases segments with
    | nil => cases hc
    | cons x rest =>
        rw [Registry.classAt_insert] at hc
        split at hc
        · next hx => exact Or.inl ⟨rest, by rw [hx], hc⟩
        · exact Or.inr hc
  refine ⟨fun segments c hc => ?_, fun segments segments' c c' hc hc' hid => ?_⟩
  · obtain ⟨rest, -, hrest⟩ | hold := hplace segments c hc
    · exact (hentry.bounds rest c hrest).2
    · exact (h.lt segments c hold).trans_le hle
  · obtain ⟨rest, rfl, hrest⟩ | hold := hplace segments c hc
    · obtain ⟨rest', rfl, hrest'⟩ | hold' := hplace segments' c' hc'
      · rw [hentry.unique rest rest' c c' hrest hrest' hid]
      · have hnew := (hentry.bounds rest c hrest).1
        have hlt := h.lt segments' c' hold'
        omega
    · obtain ⟨rest', rfl, hrest'⟩ | hold' := hplace segments' c' hc'
      · have hnew := (hentry.bounds rest' c' hrest').1
        have hlt := h.lt segments c hold
        omega
      · exact h.unique segments segments' c c' hold hold' hid

/-- A new class has the next number. -/
lemma numbered_newClass (st : Store) (decl : ClassDecl) :
    TypeEntry.Numbered st.nextId (st.newClass decl none).2.nextId
      (.ofClass (st.newClass decl none).1) := by
  have hself : ∀ rest c, TypeEntry.classAt (.ofClass (st.newClass decl none).1) rest = some c →
      rest = [] ∧ c.id = st.nextId := by
    intro rest c hc
    cases rest with
    | nil =>
        cases hc
        exact ⟨rfl, rfl⟩
    | cons x rest => cases hc
  refine ⟨fun rest c hc => ?_, fun rest rest' c c' hc hc' _ => ?_⟩
  · rw [(hself rest c hc).2]
    exact ⟨le_rfl, Nat.lt_succ_self _⟩
  · rw [(hself rest c hc).1, (hself rest' c' hc').1]

/-- The variants of a new group get the next numbers, in order, also when they share a name. -/
lemma map_id_newVariants (group : String) (decls : List ClassDecl) (st : Store) :
    (Store.newVariants group st decls).1.map (fun variant => variant.2.id)
      = List.range' st.nextId decls.length := by
  induction decls generalizing st with
  | nil => rfl
  | cons decl rest ih =>
      rw [List.length_cons, List.range'_succ]
      simp only [Store.newVariants, List.map_cons, ih]
      rfl

/-- A new group has variants with new numbers. -/
lemma numbered_newGroup (st : Store) (decl : GroupDecl) :
    TypeEntry.Numbered st.nextId (st.newGroup decl).2.nextId (.ofGroup (st.newGroup decl).1) := by
  have hids := map_id_newVariants decl.name decl.variants st
  have hvariant : ∀ rest c, TypeEntry.classAt (.ofGroup (st.newGroup decl).1) rest = some c →
      ∃ name, rest = [name] ∧ (name, c) ∈ (Store.newVariants decl.name st decl.variants).1 := by
    intro rest c hc
    match rest, hc with
    | [name], hc => exact ⟨name, rfl, Table.mem_of_find?_ofList hc⟩
  refine ⟨fun rest c hc => ?_, fun rest rest' c c' hc hc' hid => ?_⟩
  · obtain ⟨name, -, hmem⟩ := hvariant rest c hc
    have hrange : c.id ∈ List.range' st.nextId decl.variants.length := by
      rw [← hids]
      exact List.mem_map.mpr ⟨(name, c), hmem, rfl⟩
    rw [List.mem_range'_1] at hrange
    rw [newGroup_snd]
    show st.nextId ≤ c.id ∧ c.id < st.nextId + decl.variants.length + 1
    omega
  · obtain ⟨name, rfl, hmem⟩ := hvariant rest c hc
    obtain ⟨name', rfl, hmem'⟩ := hvariant rest' c' hc'
    have hnodup : ((Store.newVariants decl.name st decl.variants).1.map
        fun variant => variant.2.id).Nodup := by
      rw [hids]
      exact List.nodup_range'
    have hsame := List.inj_on_of_nodup_map hnodup hmem hmem' hid
    rw [(Prod.mk.inj hsame).1]

/-! ### The regime -/

/-- Registries are numbered below the next number; values and text are free. -/
def classNumbers : Regime where
  value _ := True
  text _ _ := True
  types n types := types.Numbered n

lemma lawful_classNumbers : classNumbers.Lawful where
  value_of_not_capturesScope _ _ := trivial
  part _ _ _ _ _ := trivial
  inner _ _ _ _ _ _ := trivial
  functionValue _ _ _ _ _ _ := trivial
  lambdaValue _ _ _ _ _ _ := trivial
  functionBody _ _ _ _ _ := trivial
  lambdaBody _ _ _ := trivial
  types_mono _ _ _ h hle := h.mono hle
  classTypes st types decl h := h.insert (numbered_newClass st decl) (Nat.le_succ _) decl.name
  groupTypes st types decl h := by
    refine h.insert (numbered_newGroup st decl) ?_ decl.name
    rw [newGroup_snd]
    show st.nextId ≤ st.nextId + decl.variants.length + 1
    omega

/-! ### Runs -/

/-- The path of a class pattern. -/
def Pattern.classPath? : Expr → Option TypePath
  | .callNamed (.typeRef path) _ _ => some path
  | _ => none

/-- A value that matches a class pattern is an object of the class that its path stands for. -/
lemma Pattern.eq_object_of_match? {types : Registry} {st : Store} {p : Expr} {v : Value}
    {bs : Bindings} {path : TypePath} (hpath : Pattern.classPath? p = some path)
    (h : Pattern.match? types st p v = .ok (some bs)) :
    ∃ c d r, types.resolveClass path = .ok c ∧ v = .object d r ∧ d.id = c.id := by
  unfold Pattern.classPath? at hpath
  split at hpath
  · cases hpath
    obtain ⟨c, hc, ⟨d, r, hv, hd, -⟩ | ⟨-, hnone⟩⟩ :=
      Pattern.bindings?_class_eq_ok.mp (Pattern.match?_eq_ok_iff.mp h).2
    · exact ⟨c, d, r, hc, hv, hd⟩
    · cases hnone
  · cases hpath

/-- In a numbered registry, paths of one class have the same segments. -/
lemma Registry.Numbered.segments_eq {n : Nat} {types : Registry} (h : types.Numbered n)
    {path path' : TypePath} {c c' : Class} (hc : types.resolveClass path = .ok c)
    (hc' : types.resolveClass path' = .ok c') (hid : c.id = c'.id) :
    path.segments = path'.segments :=
  h.unique _ _ c c' (Registry.classAt_of_resolveClass hc) (Registry.classAt_of_resolveClass hc') hid

/-- **Classes are unambiguous.** Run a program on a fresh interpreter after any others, and take a state
in which any piece of its evaluation starts or ends. Two paths with different segments that both stand
for classes stand for different classes, and of any class patterns whose paths have pairwise different
segments, a value matches at most one. -/
theorem class_identity_unambiguous (config : Config) (before : List Program) (program : Program)
    (q : Job) (h : q.ComesUp config before program) (t : State)
    (ht : t = q.state ∨ t = finalState (q.outcome config)) :
    (∀ (path path' : TypePath) (c c' : Class), path.segments ≠ path'.segments →
      t.types.resolveClass path = .ok c → t.types.resolveClass path' = .ok c' → c.id ≠ c'.id) ∧
    ∀ (v : Value) (patterns : Set Expr), (∀ p ∈ patterns, (Pattern.classPath? p).isSome) →
      patterns.Pairwise (fun p p' =>
        (Pattern.classPath? p).map TypePath.segments ≠ (Pattern.classPath? p').map TypePath.segments) →
      {p ∈ patterns | ∃ bs, Pattern.match? t.types t.store p v = .ok (some bs)}.Subsingleton := by
  have hq : q.Obeys classNumbers :=
    h.obeys lawful_classNumbers Registry.numbered_empty fun _ _ => trivial
  have hstate : t.Obeys classNumbers := by
    obtain rfl | rfl := ht
    · exact hq.state
    · exact lawful_classNumbers.obeys_finalState config hq
  have hnumbered : t.types.Numbered t.store.nextId := hstate.types
  refine ⟨fun path path' c c' hne hc hc' hid => hne (hnumbered.segments_eq hc hc' hid), ?_⟩
  rintro v patterns hclass hpairwise p ⟨hp, bs, hbs⟩ p' ⟨hp', bs', hbs'⟩
  by_contra hne
  obtain ⟨path, hpath⟩ := Option.isSome_iff_exists.mp (hclass p hp)
  obtain ⟨path', hpath'⟩ := Option.isSome_iff_exists.mp (hclass p' hp')
  obtain ⟨c, d, r, hc, rfl, hd⟩ := Pattern.eq_object_of_match? hpath hbs
  obtain ⟨c', d', r', hc', heq, hd'⟩ := Pattern.eq_object_of_match? hpath' hbs'
  cases heq
  have hsegments := hnumbered.segments_eq hc hc' (hd.symm.trans hd')
  refine hpairwise hp hp' hne ?_
  rw [hpath, hpath', Option.map_some, Option.map_some, hsegments]

/-- A class `A` that is defined twice, and between its definitions a group with two variants of that
name. The class and the variant that count in the end are different ones, and no value matches the
patterns of both. -/
theorem class_and_variant_of_one_name :
    let a : ClassDecl := ⟨"A", [], default⟩
    let program : Program := [.classDef a, .groupDef ⟨"G", [a, a], default⟩, .classDef a]
    let alone : TypePath := ⟨["A"], default⟩
    let variant : TypePath := ⟨["G", "A"], default⟩
    let pattern (path : TypePath) : Expr := .callNamed (.typeRef path) [] default
    let t := (runAll default [program] .initial).2
    ∃ c c', t.types.resolveClass alone = .ok c ∧ t.types.resolveClass variant = .ok c' ∧
      c.id ≠ c'.id ∧
      ∀ v, {p ∈ ({pattern alone, pattern variant} : Set Expr) |
        ∃ bs, Pattern.match? t.types t.store p v = .ok (some bs)}.Subsingleton := by
  intro a program alone variant pattern t
  have hclass : ∃ c, t.types.resolveClass alone = .ok c := ⟨_, rfl⟩
  have hvariant : ∃ c, t.types.resolveClass variant = .ok c := ⟨_, rfl⟩
  have hne : alone.segments ≠ variant.segments := by decide
  obtain ⟨c, hc⟩ := hclass
  obtain ⟨c', hc'⟩ := hvariant
  obtain ⟨hpaths, hpatterns⟩ := class_identity_unambiguous default [program] []
    ⟨.statements [], t⟩ .refl t (Or.inl rfl)
  refine ⟨c, c', hc, hc', hpaths alone variant c c' hne hc hc', fun v => hpatterns v _ ?_ ?_⟩
  · rintro p (rfl | rfl) <;> rfl
  · rw [Set.pairwise_pair]
    intro _
    exact ⟨by decide, by decide⟩

end RecordLang
