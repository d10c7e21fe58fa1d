import K8sAgentsOperator.Strings
import K8sAgentsOperator.Env
import Mathlib.Data.List.Sort
/-!
# Writing and reading `OTEL_RESOURCE_ATTRIBUTES`

`resourceMapToStr` writes an attribute map as `k=v` pairs in increasing key
order, joined by `,`; `createResourceMap` reads an existing value back by
splitting on `,`, trimming each piece and keeping the pieces that split on
`=` into exactly two parts. Nothing is escaped on either side, so the round
trip holds exactly for maps whose text carries no separator
(`parseResourceAttrs_resourceMapToStr`). The sort makes the text a function of
the map, whatever order Go iterates it in (`resourceMapToStr_congr`).
-/

namespace K8sAgentsOperator.Instrumentation

open Strings

/-- Go's `a <= b` on strings: byte order, which on UTF-8 text is code-point order. -/
def keyLE (a b : String) : Prop := ¬ b.data < a.data

instance : DecidableRel keyLE := fun a b => inferInstanceAs (Decidable (¬ b.data < a.data))

/-- `resourceMapToStr`: `sort.Strings` on the keys, then `str += ","` between the
`fmt.Sprintf("%s=%s", k, res[k])` pairs. -/
def resourceMapToStr (res : Attrs) : String :=
  (res.keys.insertionSort keyLE).foldl
    (fun str k => (if str ≠ "" then str ++ "," else str) ++ (k ++ "=" ++ res.get k)) ""

/-- One comma-separated piece of an attributes value, as `createResourceMap` reads it. -/
def parseResourceAttr (kv : String) : Option (String × String) :=
  match split (trimSpace kv) '=' with
  | [k, v] => some (k, v)
  | _ => none

/-- The pairs an attributes value declares. -/
def parseResourceAttrs (s : String) : List (String × String) :=
  (split s ',').filterMap parseResourceAttr

/-- The keys an attributes value declares: `existingRes` in `createResourceMap`. -/
def declaredKeys (s : String) : List String :=
  (parseResourceAttrs s).map Prod.fst

/-- The sorted `k=v` pairs `resourceMapToStr` joins. -/
def resourcePairs (res : Attrs) : List String :=
  (res.keys.insertionSort keyLE).map fun k => k ++ "=" ++ res.get k

/-! ## The encoder is a join -/

/-- The loop body of `resourceMapToStr`. -/
private def joinStep (str p : String) : String :=
  (if str ≠ "" then str ++ "," else str) ++ p

private theorem foldl_joinStep (ps : List String) (acc : String) (h : acc ≠ "") :
    ps.foldl joinStep acc = ⟨acc.data ++ (ps.map fun p => ',' :: p.data).flatten⟩ := by
  induction ps generalizing acc with
  | nil => simp
  | cons p ps ih =>
    rw [List.foldl_cons, ih _ (by simp [joinStep, h, String.ext_iff])]
    simp [joinStep, h]

private theorem intercalate_comma_cons (p : List Char) (ps : List (List Char)) :
    [','].intercalate (p :: ps) = p ++ (ps.map (',' :: ·)).flatten := by
  induction ps generalizing p with
  | nil => simp [List.intercalate]
  | cons q qs ih =>
    have := ih q
    simp only [List.intercalate, List.intersperse_cons_cons, List.flatten_cons] at this ⊢
    simp [this]

private theorem join_cons (p : String) (ps : List String) :
    join (p :: ps) "," = ⟨p.data ++ (ps.map fun q => ',' :: q.data).flatten⟩ := by
  simp [join, intercalate_comma_cons, Function.comp_def]

private theorem foldl_joinStep_empty (ps : List String) (h : ∀ p ∈ ps, p ≠ "") :
    ps.foldl joinStep "" = join ps "," := by
  cases ps with
  | nil => rfl
  | cons p ps =>
    have hp := h p (List.mem_cons_self _ _)
    rw [List.foldl_cons, show joinStep "" p = p by simp [joinStep], foldl_joinStep ps p hp, join_cons]

theorem resourceMapToStr_eq_join (res : Attrs) : resourceMapToStr res = join (resourcePairs res) "," := by
  rw [resourceMapToStr, ← foldl_joinStep_empty _ fun p hp => by
      obtain ⟨k, -, rfl⟩ := List.mem_map.1 hp; simp [String.ext_iff],
    resourcePairs, List.foldl_map]
  rfl

/-! ## The encoder reads the map, not its order

Go ranges over a map in a random order; `sort.Strings` makes the text a function of the map. -/

instance : IsTotal String keyLE := ⟨fun _ _ => not_and_or.1 fun h => lt_asymm h.1 h.2⟩

instance : IsTrans String keyLE := ⟨fun _ _ _ hab hbc => not_lt.2 ((not_lt.1 hab).trans (not_lt.1 hbc))⟩

instance : IsAntisymm String keyLE := ⟨fun _ _ hab hba => String.ext (le_antisymm (not_lt.1 hab) (not_lt.1 hba))⟩

theorem resourceMapToStr_eq_of_lookup {m m' : Attrs} (h : ∀ k, m.lookup k = m'.lookup k) :
    resourceMapToStr m = resourceMapToStr m' := by
  have hperm : m.keys.Perm m'.keys := (List.perm_ext_iff_of_nodup m.keys_nodup m'.keys_nodup).2 fun k => by
    rw [← AList.mem_keys, ← AList.mem_keys, ← AList.lookup_isSome, ← AList.lookup_isSome, h]
  have hkeys : m.keys.insertionSort keyLE = m'.keys.insertionSort keyLE :=
    List.eq_of_perm_of_sorted ((List.perm_insertionSort _ _).trans (hperm.trans (List.perm_insertionSort _ _).symm))
      (List.sorted_insertionSort _ _) (List.sorted_insertionSort _ _)
  have hget : ∀ k, m.get k = m'.get k := fun k => by rw [Attrs.get, Attrs.get, h]
  simp only [resourceMapToStr, hkeys, hget]

/-- Two maps with the same entries, stored in any order, are written as the same text. -/
theorem resourceMapToStr_congr {m m' : Attrs} (h : ∀ k, m.lookup k = m'.lookup k) :
    resourceMapToStr m = resourceMapToStr m' :=
  resourceMapToStr_eq_of_lookup h

/-- The map `{a: 1, b: 2}`, built in the two orders: its entries are stored in the two orders. -/
theorem resourceMapToStr_congr_swapped :
    (∀ k, (((∅ : Attrs).insert "a" "1").insert "b" "2").lookup k =
      (((∅ : Attrs).insert "b" "2").insert "a" "1").lookup k) ∧
    resourceMapToStr (((∅ : Attrs).insert "a" "1").insert "b" "2") =
      resourceMapToStr (((∅ : Attrs).insert "b" "2").insert "a" "1") :=
  have h : ∀ k, (((∅ : Attrs).insert "a" "1").insert "b" "2").lookup k =
      (((∅ : Attrs).insert "b" "2").insert "a" "1").lookup k :=
    fun _ => AList.perm_lookup (AList.insert_insert_of_ne _ (by decide))
  ⟨h, resourceMapToStr_congr h⟩

/-! ## Reading back what was written -/

/-- A key and value the reader gets back: no `,` or `=` in either, no space opening the
key or closing the value (the trim would eat it). Kubernetes names all qualify. -/
def SafeAttr (k v : String) : Prop :=
  ',' ∉ k.data ∧ '=' ∉ k.data ∧ ',' ∉ v.data ∧ '=' ∉ v.data ∧
    k.data.head?.all (!isSpace ·) ∧ v.data.getLast?.all (!isSpace ·)

instance (k v : String) : Decidable (SafeAttr k v) :=
  inferInstanceAs (Decidable (_ ∧ _ ∧ _ ∧ _ ∧ _ ∧ _))

theorem pair_eq_join (k v : String) : k ++ "=" ++ v = join [k, v] ⟨['=']⟩ := by
  simp [join, List.intercalate, String.ext_iff]

private theorem pair_head_not_space {k v : String} (hh : k.data.head?.all (!isSpace ·)) :
    ∀ c, (k ++ "=" ++ v).data.head? = some c → isSpace c = false := by
  intro c hc
  cases hkd : k.data with
  | nil => simp [hkd] at hc; subst hc; decide
  | cons x xs => simp [hkd] at hc hh; subst hc; exact hh

private theorem pair_last_not_space {k v : String} (hl : v.data.getLast?.all (!isSpace ·)) :
    ∀ c, (k ++ "=" ++ v).data.getLast? = some c → isSpace c = false := by
  intro c hc
  rcases List.eq_nil_or_concat v.data with hvd | ⟨init, x, hvd⟩
  · simp [hvd] at hc; subst hc; decide
  · have e : (k ++ "=" ++ v).data = (k.data ++ '=' :: init) ++ [x] := by simp [hvd]
    rw [e, List.getLast?_concat, Option.some.injEq] at hc
    simp [hvd] at hl
    subst hc; exact hl

theorem parseResourceAttr_pair {k v : String} (h : SafeAttr k v) :
    parseResourceAttr (k ++ "=" ++ v) = some (k, v) := by
  obtain ⟨-, hk, -, hv, hh, hl⟩ := h
  rw [parseResourceAttr, trimSpace_of_ends (pair_head_not_space hh) (pair_last_not_space hl),
    pair_eq_join, split_join (by simp) (by simp [hk, hv])]

theorem parseResourceAttrs_join {ps : List String} (h : ∀ p ∈ ps, ',' ∉ p.data) :
    parseResourceAttrs (join ps ",") = ps.filterMap parseResourceAttr := by
  cases ps with
  | nil => rfl
  | cons p ps => rw [parseResourceAttrs, split_join (List.cons_ne_nil _ _) h]

/-- The reader gets back every pair of a map whose text is safe, in key order. -/
theorem parseResourceAttrs_resourceMapToStr (m : Attrs) (h : ∀ k ∈ m.keys, SafeAttr k (m.get k)) :
    parseResourceAttrs (resourceMapToStr m) = (m.keys.insertionSort keyLE).map fun k => (k, m.get k) := by
  have hs : ∀ k ∈ m.keys.insertionSort keyLE, SafeAttr k (m.get k) :=
    fun k hk => h k ((List.perm_insertionSort _ _).subset hk)
  rw [resourceMapToStr_eq_join, parseResourceAttrs_join, resourcePairs, List.filterMap_map]
  · exact List.filterMap_eq_map_iff_forall_eq_some.2 fun k hk =>
      (Function.comp_apply ..).trans (parseResourceAttr_pair (hs k hk))
  · simp only [resourcePairs, List.mem_map]
    rintro _ ⟨k, hk, rfl⟩
    simp [(hs k hk).1, (hs k hk).2.2.1]

/-- On a map whose keys and values are safe text, decoding the encoder's output gives the map's
pairs in key order, so the keys `createResourceMap` reads back are the map's keys. -/
theorem resourceMapToStr_decodes (m : Attrs) (h : ∀ k ∈ m.keys, SafeAttr k (m.get k)) :
    parseResourceAttrs (resourceMapToStr m) = (m.keys.insertionSort keyLE).map (fun k => (k, m.get k)) ∧
    ∀ k, k ∈ declaredKeys (resourceMapToStr m) ↔ k ∈ m := by
  refine ⟨parseResourceAttrs_resourceMapToStr m h, fun k => ?_⟩
  rw [declaredKeys, parseResourceAttrs_resourceMapToStr m h, List.map_map]
  simp only [Function.comp_def, List.map_id', ← AList.mem_keys]
  exact (List.perm_insertionSort _ _).mem_iff

/-- The map `{k8s.pod.name: p}`. -/
def podNameAttrs : Attrs := (∅ : Attrs).insert k8sPodNameKey "p"

theorem resourceMapToStr_decodes_podName :
    (∀ k ∈ podNameAttrs.keys, SafeAttr k (Attrs.get podNameAttrs k)) ∧
    (parseResourceAttrs (resourceMapToStr podNameAttrs) =
      (podNameAttrs.keys.insertionSort keyLE).map (fun k => (k, Attrs.get podNameAttrs k)) ∧
    ∀ k, k ∈ declaredKeys (resourceMapToStr podNameAttrs) ↔ k ∈ podNameAttrs) :=
  ⟨by decide, resourceMapToStr_decodes podNameAttrs (by decide)⟩

/-- A `,` in a value is not escaped: one pair is read back as two. -/
theorem resourceMapToStr_comma_value :
    parseResourceAttrs (resourceMapToStr ((∅ : Attrs).insert "a" "1,b=2")) = [("a", "1"), ("b", "2")] := by
  decide

/-! ## What a written value declares

Without the full round trip: a pair `k=v` declares `k` when the key is plain and `v` has no `=`,
whatever the other pairs hold; and whatever the text declares, some pair's own text declares. -/

/-- A key that every piece `k=…` gives back: no `,` or `=`, no space opening it. -/
def PlainKey (k : String) : Prop :=
  ',' ∉ k.data ∧ '=' ∉ k.data ∧ k.data.head?.all (!isSpace ·)

instance (k : String) : Decidable (PlainKey k) := inferInstanceAs (Decidable (_ ∧ _ ∧ _))

@[simp] theorem declaredKeys_empty : declaredKeys "" = [] := rfl

theorem declaredKeys_append_comma (a b : String) :
    declaredKeys (a ++ "," ++ b) = declaredKeys a ++ declaredKeys b := by
  simp only [declaredKeys, parseResourceAttrs, show a ++ "," ++ b = a ++ ⟨[',']⟩ ++ b from rfl,
    split_append_sep, List.filterMap_append, List.map_append]

private theorem join_cons_cons (p q : String) (qs : List String) :
    join (p :: q :: qs) "," = p ++ "," ++ join (q :: qs) "," := by
  simp [join_cons, String.ext_iff]

theorem declaredKeys_join (ps : List String) : declaredKeys (join ps ",") = ps.flatMap declaredKeys := by
  induction ps with
  | nil => rfl
  | cons p ps ih =>
    cases ps with
    | nil => simp [join, List.intercalate]
    | cons q qs => rw [join_cons_cons, declaredKeys_append_comma, ih, List.flatMap_cons p]

theorem trimSpace_pair {k : String} (u : String) (hk : PlainKey k) :
    trimSpace (k ++ "=" ++ u) = k ++ "=" ++ ⟨u.data.rdropWhile isSpace⟩ := by
  have heq : isSpace '=' = false := by decide
  have hd : (k.data ++ '=' :: u.data).dropWhile isSpace = k.data ++ '=' :: u.data := by
    cases hkd : k.data with
    | nil => simp [List.dropWhile_cons, heq]
    | cons c cs => have := hk.2.2; simp_all [List.dropWhile_cons]
  simp only [trimSpace, String.data_append, List.append_assoc, List.singleton_append]
  rw [hd, rdropWhile_append_cons _ _ _ heq]
  simp [String.ext_iff]

theorem parseResourceAttr_plain {k u : String} (hk : PlainKey k) (hu : '=' ∉ u.data) :
    parseResourceAttr (k ++ "=" ++ u) = some (k, ⟨u.data.rdropWhile isSpace⟩) := by
  have hu' : '=' ∉ u.data.rdropWhile isSpace := fun h => hu ((List.rdropWhile_prefix _ _).subset h)
  rw [parseResourceAttr, trimSpace_pair u hk, pair_eq_join, split_join (by simp) (by simp [hk.2.1, hu'])]

/-- A pair declares its key when the key is plain and the value has no `=`. -/
theorem mem_declaredKeys_pair {k v : String} (hk : PlainKey k) (hv : '=' ∉ v.data) :
    k ∈ declaredKeys (k ++ "=" ++ v) := by
  have hsplit : ∃ ps, split (k ++ "=" ++ v) ',' =
      (k ++ "=" ++ ⟨v.data.takeWhile fun x => !(x == ',')⟩) :: ps := by
    have hne : ∀ x ∈ k.data ++ ['='], (!(x == ',')) = true := by
      intro x hx
      rcases List.mem_append.1 hx with hx | hx
      · simpa using fun e : x = ',' => hk.1 (e ▸ hx)
      · simp at hx; subst hx; decide
    obtain ⟨ps, hps⟩ := List.head?_eq_some_iff.1 (head?_splitOnP (· == ',') (k ++ "=" ++ v).data)
    refine ⟨ps.map String.mk, ?_⟩
    simp only [split, List.splitOn, hps, List.map_cons]
    congr 1
    simp only [String.data_append, List.append_assoc] at hne ⊢
    rw [← List.append_assoc, List.takeWhile_append_of_pos hne]
    rfl
  obtain ⟨ps, hps⟩ := hsplit
  have hv' : '=' ∉ v.data.takeWhile fun x => !(x == ',') :=
    fun h => hv ((List.takeWhile_sublist _).subset h)
  simp [declaredKeys, parseResourceAttrs, hps, parseResourceAttr_plain hk hv']

/-- A key of a map with a plain key and a value without `=` is declared by the map's text. -/
theorem mem_declaredKeys_resourceMapToStr {m : Attrs} {k v : String} (hkv : m.lookup k = some v)
    (hk : PlainKey k) (hv : '=' ∉ v.data) : k ∈ declaredKeys (resourceMapToStr m) := by
  rw [resourceMapToStr_eq_join, declaredKeys_join, List.mem_flatMap]
  refine ⟨k ++ "=" ++ v, ?_, mem_declaredKeys_pair hk hv⟩
  have hmem : k ∈ m.keys := AList.mem_keys.2 (AList.lookup_isSome.1 (by simp [hkv]))
  exact List.mem_map.2 ⟨k, (List.perm_insertionSort _ _).mem_iff.2 hmem, by simp [Attrs.get, hkv]⟩

/-- A value that declares a key contains it as text. -/
theorem contains_of_mem_declaredKeys {v k : String} (h : k ∈ declaredKeys v) : contains v k = true := by
  simp only [declaredKeys, parseResourceAttrs, List.mem_map, List.mem_filterMap] at h
  obtain ⟨⟨k', x⟩, ⟨piece, hpiece, hp⟩, rfl⟩ := h
  unfold parseResourceAttr at hp
  split at hp
  · rename_i a b hs
    obtain ⟨rfl, rfl⟩ : a = k' ∧ b = x := by simpa using hp
    have hd : (trimSpace piece).data = a.data ++ '=' :: b.data := by
      have := List.intercalate_splitOn (trimSpace piece).data '='
      rw [← split_data, hs] at this
      simpa [List.intercalate] using this.symm
    have h₁ : a.data <:+: (trimSpace piece).data := hd ▸ (List.prefix_append _ _).isInfix
    have h₂ : (trimSpace piece).data <:+: piece.data :=
      (List.rdropWhile_prefix _ _).isInfix.trans (List.dropWhile_suffix _).isInfix
    obtain ⟨l, hl, rfl⟩ := List.mem_map.1 hpiece
    exact decide_eq_true (h₁.trans (h₂.trans (infix_of_mem_splitOnP _ v.data hl)))
  · cases hp

/-- A key the map's text declares is declared by the text of one of its pairs. -/
theorem exists_pair_of_mem_declaredKeys {m : Attrs} {k : String} (hk : k ∈ declaredKeys (resourceMapToStr m)) :
    ∃ k' v, m.lookup k' = some v ∧ k ∈ declaredKeys (k' ++ "=" ++ v) := by
  rw [resourceMapToStr_eq_join, declaredKeys_join, List.mem_flatMap] at hk
  obtain ⟨_, hp, hk⟩ := hk
  obtain ⟨k', hk', rfl⟩ := List.mem_map.1 hp
  obtain ⟨v, hv⟩ := Option.isSome_iff_exists.1
    (AList.lookup_isSome.2 (AList.mem_keys.1 ((List.perm_insertionSort _ _).mem_iff.1 hk')))
  exact ⟨k', v, hv, by rwa [show Attrs.get m k' = v by simp [Attrs.get, hv]] at hk⟩

end K8sAgentsOperator.Instrumentation
