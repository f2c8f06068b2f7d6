import Everoute.Monitor.Merge
import Everoute.Monitor.Snapshot

/-!
# What the merge does

The merge rewrites each interface's reference without reading the cache, and writes the
cache only through the cached maps it visits; we take the two apart. An interface's own map
ends up with the remote interface's entries on the keys it lacked (`absorb`). A cached map
absorbs the entries of the remote interface that every interface sharing it matches, and
absorbing the same entries twice changes nothing, so on a snapshot whose shared maps are
shared only by interfaces with one bridge and port number, as every built snapshot's are,
each interface's map ends up as its own map with the match's entries added, whatever the
aliasing.
-/
namespace Everoute.Monitor

/-! ### Absorbing entries -/

/-- `m` with each entry of `entries` whose key `m` lacks, the first entry of a key winning. -/
def absorb (entries : List (IPAddress × Time)) (m : IPMap) : IPMap :=
  entries.foldl (fun m e => if m.contains e.1 then m else m.insert e.1 e.2) m

/-- A map after the merge of an interface whose match, if any, is `matchIntf`. -/
def absorbMatch : Option (OVSInterface IPMap) → IPMap → IPMap
  | none, m => m
  | some matchIntf, m => absorb matchIntf.ipMap.entries m

theorem lookup_absorb (entries : List (IPAddress × Time)) (m : IPMap) (key : IPAddress) :
    (absorb entries m).lookup key = (m.lookup key).or (entries.lookup key) := by
  induction entries generalizing m with
  | nil => cases h : m.lookup key <;> simp [absorb, h]
  | cons e entries ih =>
    obtain ⟨k, v⟩ := e
    simp only [absorb, List.foldl_cons] at ih ⊢
    rw [ih]
    by_cases hk : key = k
    · subst hk
      by_cases present : m.contains key
      · obtain ⟨w, hw⟩ := Option.isSome_iff_exists.mp present
        simp [present, hw]
      · have absent : m.lookup key = none := by simpa [GoMap.contains] using present
        simp [present, absent]
    · have differ : (key == k) = false := by simpa using hk
      split <;> simp [GoMap.lookup_insert, List.lookup_cons, hk, differ]

theorem isSome_lookup_of_mem {entries : List (IPAddress × Time)} {e : IPAddress × Time}
    (member : e ∈ entries) : (entries.lookup e.1).isSome := by
  induction entries with
  | nil => cases member
  | cons e' entries ih =>
    rw [List.lookup_cons]
    split
    · rfl
    · rcases List.mem_cons.mp member with rfl | member
      · simp_all
      · exact ih member

/-- Entries whose keys a map already has change nothing. -/
theorem absorb_of_contains {entries : List (IPAddress × Time)} {m : IPMap}
    (present : ∀ e ∈ entries, m.contains e.1) : absorb entries m = m := by
  induction entries with
  | nil => rfl
  | cons e entries ih =>
    simp only [absorb, List.foldl_cons, present e (List.mem_cons_self e entries), if_true] at ih ⊢
    exact ih fun e' member => present e' (List.mem_cons_of_mem e member)

@[simp] theorem absorb_absorb (entries : List (IPAddress × Time)) (m : IPMap) :
    absorb entries (absorb entries m) = absorb entries m :=
  absorb_of_contains fun e member => by
    simp only [GoMap.contains, lookup_absorb]
    cases m.lookup e.1 <;> simp [isSome_lookup_of_mem member]

@[simp] theorem absorbMatch_none : absorbMatch none = id := rfl

@[simp] theorem absorbMatch_absorbMatch (matchIntf : Option (OVSInterface IPMap)) (m : IPMap) :
    absorbMatch matchIntf (absorbMatch matchIntf m) = absorbMatch matchIntf m := by
  cases matchIntf <;> simp [absorbMatch]

/-- Inserting entries whose keys are new is absorbing them. -/
theorem foldl_insert_eq_absorb {entries : List (IPAddress × Time)} (distinct : (entries.map Prod.fst).Nodup)
    {m : IPMap} (fresh : ∀ e ∈ entries, m.contains e.1 = false) :
    entries.foldl (fun m e => m.insert e.1 e.2) m = absorb entries m := by
  induction entries generalizing m with
  | nil => rfl
  | cons e entries ih =>
    rw [List.map_cons, List.nodup_cons] at distinct
    simp only [absorb, List.foldl_cons, fresh e (List.mem_cons_self e entries)] at ih ⊢
    refine ih distinct.2 fun e' member => ?_
    have other : e'.1 ≠ e.1 := fun same => distinct.1 (same ▸ List.mem_map_of_mem Prod.fst member)
    simp [GoMap.contains, GoMap.lookup_insert, other,
      (by simpa [GoMap.contains] using fresh e' (List.mem_cons_of_mem e member) : m.lookup e'.1 = none)]

/-- A map absorbs its own entries unchanged. -/
theorem absorb_self (m : IPMap) : absorb m.entries m = m :=
  absorb_of_contains fun _ member => GoMap.contains_iff.mpr (GoMap.mem_keys_of_mem member)

theorem absorb_empty (m : IPMap) : absorb m.entries GoMap.empty = m := by
  rw [← foldl_insert_eq_absorb (m := GoMap.empty) m.nodup (fun _ _ => rfl)]
  suffices h : ∀ (l : List (IPAddress × Time)) (acc : IPMap), (acc.keys ++ l.map Prod.fst).Nodup →
      (l.foldl (fun m e => m.insert e.1 e.2) acc).entries = acc.entries ++ l from
    GoMap.ext (by simpa using h m.entries GoMap.empty (by simpa using m.nodup))
  intro l
  induction l with
  | nil => simp
  | cons e l ih =>
    intro acc distinct
    have absent : e.1 ∉ acc.keys := fun h => by
      simp only [List.map_cons] at distinct
      exact (List.nodup_append.mp distinct).2.2 h (List.mem_cons_self _ _)
    have inserted : (acc.insert e.1 e.2).entries = acc.entries ++ [e] := by
      simp [GoMap.insert, absent]
    rw [List.foldl_cons, ih _ (by rw [GoMap.keys, inserted]; simpa [GoMap.keys] using distinct),
      inserted, List.append_assoc, List.singleton_append]

/-! ### Stateful loops whose results do not read the state -/

section Traversal

variable {α β σ μ ν : Type}

theorem threadMap_of_indep {f : α → σ → β × σ} {g : α → β} (indep : ∀ a s, (f a s).1 = g a)
    (xs : List α) (s : σ) : threadMap f xs s = (xs.map g, xs.foldl (fun s a => (f a s).2) s) := by
  induction xs generalizing s with
  | nil => rfl
  | cons a xs ih => simp [threadMap, ih, indep]

theorem foldl_flatMap (f : σ → β → σ) (g : α → List β) (xs : List α) (s : σ) :
    (xs.flatMap g).foldl f s = xs.foldl (fun s a => (g a).foldl f s) s := by
  induction xs generalizing s with
  | nil => rfl
  | cons a xs ih => simp [List.flatMap_cons, List.foldl_append, ih]

theorem OVSPort.traverseIPMap_of_indep {f : OVSInterface μ → σ → ν × σ} {g : OVSInterface μ → ν}
    (indep : ∀ intf s, (f intf s).1 = g intf) (port : OVSPort μ) (s : σ) :
    port.traverseIPMap f s = (port.mapIPMap g, port.interfaces.foldl (fun s intf => (f intf s).2) s) := by
  simp only [OVSPort.traverseIPMap, OVSPort.mapIPMap]
  rw [threadMap_of_indep (g := fun intf => intf.withIPMap (g intf)) fun intf s => by simp only [indep]]

theorem OVSBridge.traverseIPMap_of_indep {f : String → OVSInterface μ → σ → ν × σ}
    {g : String → OVSInterface μ → ν}
    (indep : ∀ bridgeName intf s, (f bridgeName intf s).1 = g bridgeName intf)
    (ovsBr : OVSBridge μ) (s : σ) :
    ovsBr.traverseIPMap f s = (ovsBr.mapIPMap g, ovsBr.ports.foldl
      (fun s port => port.interfaces.foldl (fun s intf => (f ovsBr.name intf s).2) s) s) := by
  simp only [OVSBridge.traverseIPMap, OVSBridge.mapIPMap]
  rw [threadMap_of_indep (g := OVSPort.mapIPMap (g ovsBr.name)) fun port s => by
    rw [OVSPort.traverseIPMap_of_indep (indep ovsBr.name)]]
  simp only [OVSPort.traverseIPMap_of_indep (indep ovsBr.name)]

/-- A traversal whose rewriting does not read the state is a map of the record, and the state
is threaded through the interfaces in order. -/
theorem AgentInfo.traverseIPMap_of_indep {f : String → OVSInterface μ → σ → ν × σ}
    {g : String → OVSInterface μ → ν}
    (indep : ∀ bridgeName intf s, (f bridgeName intf s).1 = g bridgeName intf)
    (a : AgentInfo μ) (s : σ) :
    a.traverseIPMap f s = (a.mapIPMap g, a.interfaces.foldl (fun s e => (f e.1 e.2 s).2) s) := by
  simp only [AgentInfo.traverseIPMap, AgentInfo.mapIPMap, AgentInfo.interfaces, foldl_flatMap,
    List.foldl_map]
  rw [threadMap_of_indep (g := OVSBridge.mapIPMap g) fun br s => by
    rw [OVSBridge.traverseIPMap_of_indep indep]]
  simp only [OVSBridge.traverseIPMap_of_indep indep]

end Traversal

/-! ### The remote match -/

/-- The match depends on the interface only through its port number. -/
theorem getCpIntf_congr {μ ν : Type} (bridgeName : String) {intf : OVSInterface μ}
    {intf' : OVSInterface ν} (same : intf.ofport = intf'.ofport) (cpAgentInfo : Record) :
    getCpIntf bridgeName intf cpAgentInfo = getCpIntf bridgeName intf' cpAgentInfo := by
  simp only [getCpIntf, same]

theorem map_findSome? {α β γ : Type} (f : α → Option β) (g : β → γ) (xs : List α) :
    (xs.findSome? f).map g = xs.findSome? fun x => (f x).map g := by
  induction xs with
  | nil => rfl
  | cons x xs ih => cases h : f x <;> simp [List.findSome?_cons, h, ih]

/-- `getCpIntf` finds the first interface of the record, in bridge, port and interface order,
with the bridge name and port number sought. -/
theorem getCpIntf_eq_find {μ : Type} (bridgeName : String) (newInterface : OVSInterface μ)
    (cpAgentInfo : Record) :
    getCpIntf bridgeName newInterface cpAgentInfo =
      (cpAgentInfo.interfaces.find? fun e =>
        e.1 == bridgeName && e.2.ofport == newInterface.ofport).map Prod.snd := by
  simp only [getCpIntf, AgentInfo.interfaces, List.find?_flatMap, map_findSome?, List.find?_map,
    Option.map_map]
  congr 1
  funext br
  by_cases named : br.name = bridgeName
  · simp [named, Function.comp_def]
  · have differ : (br.name == bridgeName) = false := by simpa using named
    simp only [named, differ, ne_eq, not_false_eq_true, if_true, Function.comp_def, Bool.false_and]
    exact (List.findSome?_eq_none_iff.mpr fun port _ => by simp).symm

/-! ### One interface -/

section Interface

variable (cpAgentInfo : Record) (bridgeName : String)

/-- The reference the merge leaves an interface: a cached map stays shared; a map of the
interface's own absorbs the match's entries; a missing one is made when the match has any. -/
def mergedRef (intf : OVSInterface IPMapRef) : IPMapRef :=
  match getCpIntf bridgeName intf cpAgentInfo, intf.ipMap with
  | some matchIntf, .nil => if matchIntf.ipMap.entries = [] then .nil else .owned matchIntf.ipMap
  | some matchIntf, .owned m => .owned (absorb matchIntf.ipMap.entries m)
  | _, r => r

/-! One iteration of the loop, for each kind of reference the loop variable copied. -/

theorem mergeEntry_cached (k : String) (c : IPCache) (e : IPAddress × Time) :
    mergeEntry (.cached k) (.cached k, c) e =
      (.cached k, if ((c.lookup k).getD GoMap.empty).contains e.1 then c
        else c.insert k (((c.lookup k).getD GoMap.empty).insert e.1 e.2)) := by
  simp only [mergeEntry, reduceCtorEq, if_false, ne_eq, not_false_eq_true, true_and, IPMapRef.deref]
  split <;> rfl

theorem mergeEntry_owned (m₀ m : IPMap) (c : IPCache) (e : IPAddress × Time) :
    mergeEntry (.owned m₀) (.owned m, c) e =
      (.owned (if m.contains e.1 then m else m.insert e.1 e.2), c) := by
  simp only [mergeEntry, reduceCtorEq, if_false, ne_eq, not_false_eq_true, true_and, IPMapRef.deref]
  split <;> rfl

theorem mergeEntry_nil (m : IPMap) (c : IPCache) (e : IPAddress × Time) :
    mergeEntry .nil (.owned m, c) e = (.owned (m.insert e.1 e.2), c) := by
  simp [mergeEntry, IPMapRef.store]

theorem mergeEntry_nil_nil (c : IPCache) (e : IPAddress × Time) :
    mergeEntry .nil (.nil, c) e = (.owned (GoMap.empty.insert e.1 e.2), c) := by
  simp [mergeEntry, IPMapRef.store]

theorem foldl_mergeEntry_cached_fst (k : String) (entries : List (IPAddress × Time)) (c : IPCache) :
    (entries.foldl (mergeEntry (.cached k)) (.cached k, c)).1 = .cached k := by
  induction entries generalizing c with
  | nil => rfl
  | cons e entries ih => rw [List.foldl_cons, mergeEntry_cached, ih]

/-- Through a cached map the loop absorbs the entries into the cache's map, and writes nothing
else. -/
theorem foldl_mergeEntry_cached_lookup {k : String} (entries : List (IPAddress × Time)) {c : IPCache}
    {m : IPMap} (found : c.lookup k = some m) (k' : String) :
    (entries.foldl (mergeEntry (.cached k)) (.cached k, c)).2.lookup k' =
      if k' = k then some (absorb entries m) else c.lookup k' := by
  induction entries generalizing c m with
  | nil => split <;> simp_all [absorb]
  | cons e entries ih =>
    rw [List.foldl_cons, mergeEntry_cached, found, Option.getD_some,
      ih (m := if m.contains e.1 then m else m.insert e.1 e.2) (by split <;> simp_all)]
    by_cases same : k' = k
    · simp [same, absorb]
    · simp only [same, if_false]
      split
      · rfl
      · exact GoMap.lookup_insert_of_ne _ _ same

/-- Without a map, the loop variable's copy stays `nil`: every entry is written, into a
fresh map. -/
theorem foldl_mergeEntry_nil (entries : List (IPAddress × Time)) (c : IPCache) (m : IPMap) :
    entries.foldl (mergeEntry .nil) (.owned m, c) =
      (.owned (entries.foldl (fun m e => m.insert e.1 e.2) m), c) := by
  induction entries generalizing m with
  | nil => rfl
  | cons e entries ih => rw [List.foldl_cons, mergeEntry_nil, ih]; rfl

theorem foldl_mergeEntry_owned (m₀ : IPMap) (entries : List (IPAddress × Time)) (c : IPCache) (m : IPMap) :
    entries.foldl (mergeEntry (.owned m₀)) (.owned m, c) = (.owned (absorb entries m), c) := by
  induction entries generalizing m with
  | nil => rfl
  | cons e entries ih => rw [List.foldl_cons, mergeEntry_owned, ih]; rfl

theorem mergeInterface_fst (intf : OVSInterface IPMapRef) (ipCache : IPCache) :
    (mergeInterface cpAgentInfo bridgeName intf ipCache).1 = mergedRef cpAgentInfo bridgeName intf := by
  unfold mergeInterface mergedRef
  cases getCpIntf bridgeName intf cpAgentInfo with
  | none => rfl
  | some matchIntf =>
    simp only
    cases intf.ipMap with
    | cached k => exact foldl_mergeEntry_cached_fst k _ ipCache
    | owned m => rw [foldl_mergeEntry_owned]
    | nil =>
      cases entries : matchIntf.ipMap.entries with
      | nil => simp [entries]
      | cons e rest =>
        have built : (e :: rest).foldl (fun (m : IPMap) (e : IPAddress × Time) => m.insert e.1 e.2)
            GoMap.empty = matchIntf.ipMap := by
          rw [← entries, foldl_insert_eq_absorb (m := GoMap.empty) matchIntf.ipMap.nodup (fun _ _ => rfl),
            absorb_empty]
        simp only [List.foldl_cons, mergeEntry_nil_nil, foldl_mergeEntry_nil, entries, reduceCtorEq,
          if_false]
        exact congrArg IPMapRef.owned built

/-- The merge of one interface changes the cache only under the interface's cached map, which
absorbs the match's entries. -/
theorem mergeInterface_lookup {intf : OVSInterface IPMapRef} {ipCache : IPCache}
    (cachedIn : ∀ k, intf.ipMap = .cached k → ipCache.contains k) (k' : String) :
    (mergeInterface cpAgentInfo bridgeName intf ipCache).2.lookup k' =
      if intf.ipMap = .cached k' then
        (ipCache.lookup k').map (absorbMatch (getCpIntf bridgeName intf cpAgentInfo))
      else ipCache.lookup k' := by
  unfold mergeInterface
  cases getCpIntf bridgeName intf cpAgentInfo with
  | none => simp
  | some matchIntf =>
    simp only
    cases ref : intf.ipMap with
    | owned m => simp [foldl_mergeEntry_owned]
    | nil =>
      cases matchIntf.ipMap.entries with
      | nil => simp
      | cons e rest => simp [mergeEntry_nil_nil, foldl_mergeEntry_nil]
    | cached k =>
      obtain ⟨m, found⟩ := Option.isSome_iff_exists.mp (cachedIn k ref)
      rw [foldl_mergeEntry_cached_lookup _ found]
      by_cases same : k' = k
      · subst same
        simp [found, absorbMatch]
      · simp [same, Ne.symm same]

end Interface

/-! ### The whole snapshot -/

section Snapshot

variable (cpAgentInfo : Record)

/-- The merge rewrites each interface's reference, reading no cache, and threads the cache
through the interfaces in order. -/
theorem mergeAgentInfo_eq (localAgentInfo : Snapshot) (ipCache : IPCache) :
    mergeAgentInfo localAgentInfo cpAgentInfo ipCache =
      (localAgentInfo.mapIPMap (mergedRef cpAgentInfo),
        localAgentInfo.interfaces.foldl (fun c e => (mergeInterface cpAgentInfo e.1 e.2 c).2) ipCache) :=
  AgentInfo.traverseIPMap_of_indep (mergeInterface_fst cpAgentInfo) localAgentInfo ipCache

/-- Interfaces that share a cached map match the same remote interface. -/
def MatchCoherent (xs : List (String × OVSInterface IPMapRef)) : Prop :=
  ∀ e ∈ xs, ∀ e' ∈ xs, ∀ k, e.2.ipMap = .cached k → e'.2.ipMap = .cached k →
    getCpIntf e.1 e.2 cpAgentInfo = getCpIntf e'.1 e'.2 cpAgentInfo

/-- After the interfaces `xs`, the cache's map under `k` has absorbed the match of the first
interface that shares it, and is untouched if none does. -/
theorem foldl_mergeInterface_lookup (xs : List (String × OVSInterface IPMapRef)) {ipCache : IPCache}
    (cachedIn : ∀ e ∈ xs, ∀ k, e.2.ipMap = .cached k → ipCache.contains k)
    (coherent : MatchCoherent cpAgentInfo xs) (k : String) :
    (xs.foldl (fun c e => (mergeInterface cpAgentInfo e.1 e.2 c).2) ipCache).lookup k =
      match xs.find? (fun e => e.2.ipMap == .cached k) with
      | some e => (ipCache.lookup k).map (absorbMatch (getCpIntf e.1 e.2 cpAgentInfo))
      | none => ipCache.lookup k := by
  induction xs generalizing ipCache with
  | nil => rfl
  | cons e xs ih =>
    have step := mergeInterface_lookup cpAgentInfo e.1 (cachedIn e (List.mem_cons_self e xs))
    have kept :
        ∀ k', ((mergeInterface cpAgentInfo e.1 e.2 ipCache).2.contains k') = ipCache.contains k' :=
      fun k' => by simp only [GoMap.contains, step k']; split <;> simp
    rw [List.foldl_cons, ih (fun e' member k' cached => (kept k').trans
        (cachedIn e' (List.mem_cons_of_mem e member) k' cached))
      (fun e₁ h₁ e₂ h₂ =>
        coherent e₁ (List.mem_cons_of_mem e h₁) e₂ (List.mem_cons_of_mem e h₂)),
      List.find?_cons]
    by_cases shared : e.2.ipMap = .cached k
    · simp only [step k, shared, if_true, beq_self_eq_true]
      cases found : xs.find? (fun e => e.2.ipMap == .cached k) with
      | none => rfl
      | some e' =>
        have cached' : e'.2.ipMap = .cached k := by simpa using List.find?_some found
        simp only [← coherent e (List.mem_cons_self e xs) e'
          (List.mem_cons_of_mem e (List.mem_of_find?_eq_some found)) k shared cached', Option.map_map,
          Function.comp_def, absorbMatch_absorbMatch]
    · have first : (e.2.ipMap == .cached k) = false := by simpa using shared
      simp only [first, step k, shared, if_false]

theorem foldl_mergeInterface_lookup_of_mem {xs : List (String × OVSInterface IPMapRef)}
    {ipCache : IPCache} (cachedIn : ∀ e ∈ xs, ∀ k, e.2.ipMap = .cached k → ipCache.contains k)
    (coherent : MatchCoherent cpAgentInfo xs) {e : String × OVSInterface IPMapRef} (member : e ∈ xs)
    {k : String} (cached : e.2.ipMap = .cached k) :
    (xs.foldl (fun c e => (mergeInterface cpAgentInfo e.1 e.2 c).2) ipCache).lookup k =
      (ipCache.lookup k).map (absorbMatch (getCpIntf e.1 e.2 cpAgentInfo)) := by
  rw [foldl_mergeInterface_lookup cpAgentInfo xs cachedIn coherent]
  cases found : xs.find? (fun e => e.2.ipMap == .cached k) with
  | none => exact absurd (by simpa using cached) (List.find?_eq_none.mp found e member)
  | some e' =>
    have cached' : e'.2.ipMap = .cached k := by simpa using List.find?_some found
    simp only [coherent e' (List.mem_of_find?_eq_some found) e member k cached' cached]

/-- Each interface's map after the merge is its map before it with its match's entries
absorbed, whatever the aliasing. -/
theorem mergedRef_deref {xs : List (String × OVSInterface IPMapRef)} {ipCache : IPCache}
    (cachedIn : ∀ e ∈ xs, ∀ k, e.2.ipMap = .cached k → ipCache.contains k)
    (coherent : MatchCoherent cpAgentInfo xs) {e : String × OVSInterface IPMapRef} (member : e ∈ xs) :
    (mergedRef cpAgentInfo e.1 e.2).deref
        (xs.foldl (fun c e => (mergeInterface cpAgentInfo e.1 e.2 c).2) ipCache) =
      absorbMatch (getCpIntf e.1 e.2 cpAgentInfo) (e.2.ipMap.deref ipCache) := by
  have final := fun k (cached : e.2.ipMap = .cached k) =>
    foldl_mergeInterface_lookup_of_mem cpAgentInfo cachedIn coherent member cached
  have present := cachedIn e member
  unfold mergedRef
  cases matched : getCpIntf e.1 e.2 cpAgentInfo with
  | none =>
    cases ref : e.2.ipMap with
    | cached k => simp [IPMapRef.deref, final k ref, matched]
    | _ => rfl
  | some matchIntf =>
    cases ref : e.2.ipMap with
    | owned m => rfl
    | cached k =>
      obtain ⟨m, found⟩ := Option.isSome_iff_exists.mp (present k ref)
      simp [IPMapRef.deref, final k ref, found, matched]
    | nil =>
      by_cases empty : matchIntf.ipMap.entries = []
      · simp [empty, IPMapRef.deref, absorbMatch, absorb]
      · simp [empty, IPMapRef.deref, absorbMatch, absorb_empty]

theorem lookup_absorbMatch {μ : Type} (bridgeName : String) (intf : OVSInterface μ) (m : IPMap)
    (key : IPAddress) :
    (absorbMatch (getCpIntf bridgeName intf cpAgentInfo) m).lookup key =
      match cpAgentInfo.interfaces.find? (fun remote =>
          remote.1 == bridgeName && remote.2.ofport == intf.ofport) with
      | some remote => (m.lookup key).or (remote.2.ipMap.lookup key)
      | none => m.lookup key := by
  rw [getCpIntf_eq_find]
  cases cpAgentInfo.interfaces.find? fun remote => remote.1 == bridgeName && remote.2.ofport == intf.ofport
  · rfl
  · exact lookup_absorb _ _ key

/-- What the merge of a snapshot against a remote record is to leave: the shape and everything
but the IP maps as they were, and on each interface the keys of its map before the merge with
its values, together with the keys of its match's map, the first interface of the record on
its bridge with its port number, with the remote values. -/
def MergedAsSpecified (localAgentInfo : Snapshot) (ipCache : IPCache) : Prop :=
  let merged := mergeAgentInfo localAgentInfo cpAgentInfo ipCache
  merged.1.shape = localAgentInfo.shape ∧
    List.Forall₂ (fun before after =>
        after.1 = before.1 ∧ after.2.withIPMap () = before.2.withIPMap () ∧
        ∀ key, (after.2.ipMap.deref merged.2).lookup key =
          match cpAgentInfo.interfaces.find? (fun remote =>
              remote.1 == before.1 && remote.2.ofport == before.2.ofport) with
          | some remote => ((before.2.ipMap.deref ipCache).lookup key).or (remote.2.ipMap.lookup key)
          | none => (before.2.ipMap.deref ipCache).lookup key)
      localAgentInfo.interfaces merged.1.interfaces

theorem mergeAgentInfo_of_coherent {localAgentInfo : Snapshot} {ipCache : IPCache}
    (cachedIn : CachedIn ipCache localAgentInfo)
    (coherent : MatchCoherent cpAgentInfo localAgentInfo.interfaces) :
    MergedAsSpecified cpAgentInfo localAgentInfo ipCache := by
  simp only [MergedAsSpecified, mergeAgentInfo_eq]
  refine ⟨AgentInfo.shape_mapIPMap _ _, ?_⟩
  rw [AgentInfo.interfaces_mapIPMap, List.forall₂_map_right_iff]
  refine List.forall₂_same.mpr fun e member => ⟨rfl, rfl, fun key => ?_⟩
  rw [OVSInterface.withIPMap_ipMap, mergedRef_deref cpAgentInfo cachedIn coherent member,
    lookup_absorbMatch]

theorem matchCoherent_of_aliasCoherent {a : Snapshot} (coherent : AliasCoherent a) :
    MatchCoherent cpAgentInfo a.interfaces := fun e member e' member' k cached cached' => by
  obtain ⟨bridge, ofport⟩ := coherent e member e' member' k cached cached'
  rw [bridge, getCpIntf_congr _ ofport]

/-- Read through the cache it leaves, the merged snapshot is the snapshot read through the cache
before it, with each interface's match absorbed. -/
theorem resolve_mergeAgentInfo_of_coherent {localAgentInfo : Snapshot} {ipCache : IPCache}
    (cachedIn : CachedIn ipCache localAgentInfo)
    (coherent : MatchCoherent cpAgentInfo localAgentInfo.interfaces) :
    Snapshot.resolve (mergeAgentInfo localAgentInfo cpAgentInfo ipCache).2
        (mergeAgentInfo localAgentInfo cpAgentInfo ipCache).1 =
      localAgentInfo.mapIPMap fun b intf =>
        absorbMatch (getCpIntf b intf cpAgentInfo) (intf.ipMap.deref ipCache) := by
  rw [mergeAgentInfo_eq]
  simp only [Snapshot.resolve, AgentInfo.mapIPMap_mapIPMap, OVSInterface.withIPMap_ipMap]
  exact AgentInfo.mapIPMap_congr fun e member => mergedRef_deref cpAgentInfo cachedIn coherent member

end Snapshot

section Built

variable {cfg : MonitorConfig} {ipCache : IPCache} {hostname : Option String}
  {ovsdbCache : OVSDBCache} {now : Time} {localAgentInfo : Snapshot}

/-- What `Update` sends after merging a built snapshot against any record. -/
theorem resolve_mergeAgentInfo (built : getAgentInfo cfg ipCache hostname ovsdbCache now = .ok localAgentInfo)
    (cpAgentInfo : Record) :
    Snapshot.resolve (mergeAgentInfo localAgentInfo cpAgentInfo ipCache).2
        (mergeAgentInfo localAgentInfo cpAgentInfo ipCache).1 =
      localAgentInfo.mapIPMap fun b intf =>
        absorbMatch (getCpIntf b intf cpAgentInfo) (intf.ipMap.deref ipCache) :=
  resolve_mergeAgentInfo_of_coherent cpAgentInfo (getAgentInfo_cachedIn built)
    (matchCoherent_of_aliasCoherent cpAgentInfo (getAgentInfo_aliasCoherent built))

/-- The cache a merge of a built snapshot leaves: the map under a key some interface shares has
absorbed that interface's match; every other key is as it was. -/
theorem lookup_mergeAgentInfo (built : getAgentInfo cfg ipCache hostname ovsdbCache now = .ok localAgentInfo)
    (cpAgentInfo : Record) (k : String) :
    (mergeAgentInfo localAgentInfo cpAgentInfo ipCache).2.lookup k =
      match localAgentInfo.interfaces.find? (fun e => e.2.ipMap == .cached k) with
      | some e => (ipCache.lookup k).map (absorbMatch (getCpIntf e.1 e.2 cpAgentInfo))
      | none => ipCache.lookup k := by
  rw [mergeAgentInfo_eq]
  exact foldl_mergeInterface_lookup cpAgentInfo _ (getAgentInfo_cachedIn built)
    (matchCoherent_of_aliasCoherent cpAgentInfo (getAgentInfo_aliasCoherent built)) k

end Built

/-- The merge of a snapshot that `getAgentInfo` built, against any remote record, leaves the
snapshot's shape and everything but its maps as they were, and gives each interface its map
before the merge together with the entries of its match on the keys it lacked, whether the
interface had a map or not. The record is read, never written. -/
theorem mergeAgentInfo_spec {cfg : MonitorConfig} {ipCache : IPCache} {hostname : Option String}
    {ovsdbCache : OVSDBCache} {now : Time} {localAgentInfo : Snapshot}
    (built : getAgentInfo cfg ipCache hostname ovsdbCache now = .ok localAgentInfo)
    (cpAgentInfo : Record) : MergedAsSpecified cpAgentInfo localAgentInfo ipCache :=
  mergeAgentInfo_of_coherent cpAgentInfo (getAgentInfo_cachedIn built)
    (matchCoherent_of_aliasCoherent cpAgentInfo (getAgentInfo_aliasCoherent built))

/-- The sample snapshot merged against a record whose `eth0` holds `10.0.0.9` besides the
cached `10.0.0.7`: the cache's map under `br0-5` gains the record's address. -/
theorem mergeAgentInfo_spec_on_sample :
    ∃ snapshot, getAgentInfo sampleConfig sampleCache none
        (sampleMirror (.atom (.string "2.14")) (.atom (.string "br0")) (.set [])) 0 = .ok snapshot ∧
      MergedAsSpecified
        (snapshot.resolve (GoMap.single "br0-5" (GoMap.ofList [("10.0.0.7", 0), ("10.0.0.9", 0)])))
        snapshot sampleCache ∧
      ((mergeAgentInfo snapshot
          (snapshot.resolve (GoMap.single "br0-5" (GoMap.ofList [("10.0.0.7", 0), ("10.0.0.9", 0)])))
          sampleCache).2.lookup "br0-5").map GoMap.keys = some ["10.0.0.7", "10.0.0.9"] :=
  (⟨_, rfl⟩ : ∃ snapshot, getAgentInfo sampleConfig sampleCache none
      (sampleMirror (.atom (.string "2.14")) (.atom (.string "br0")) (.set [])) 0 = .ok snapshot).elim
    fun snapshot built => ⟨snapshot, built, mergeAgentInfo_spec built _, by cases built; rfl⟩

end Everoute.Monitor
