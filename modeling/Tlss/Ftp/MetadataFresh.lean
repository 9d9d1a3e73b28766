import Tlss.Ftp.MetadataInvariant

/-!
# Freshness of the metadata cache

The steps of a call are taken one by one: a hit is fresh because the generation was
compared under the lock, a loaded result because no write can end while its loader runs.
-/

namespace Tlss.Ftp

open Library Cache List Phase MetadataCache

namespace Calls

variable {platform : Platform} {state : Calls} {index : ℕ} {call : Call} {kind : Kind} {key : Bytes}
  {result : StorageContext} {config : MetadataCacheConfig} {cache : MetadataCache} {e : Entry}

lemma Sound.wait (h : Sound platform state) :
    Sound platform { state with now := state.now + 1 } where
  wellFormed := h.wellFormed
  past y hmem := by
    have hpast := h.past y hmem
    exact ⟨Nat.lt_succ_of_lt hpast.1, fun ended hended => Nat.lt_succ_of_lt (hpast.2 ended hended)⟩
  locked := h.locked
  entries := h.entries
  calls := h.calls
  unloaded := h.unloaded

lemma getElem?_concat_cases {calls : List Call} {y : Call}
    (h : (calls ++ [call])[index]? = some y) : calls[index]? = some y ∨ y = call := by
  rw [getElem?_append] at h
  split_ifs at h with hlt
  · exact .inl h
  · exact .inr (mem_singleton.mp (mem_of_getElem? h))

lemma Sound.enter (h : Sound platform state) {cache' : MetadataCache}
    (hcache : Alike state.cache cache') (hbegan : call.began = state.now)
    (hended : call.ended = none) (hholds : call.phase.holds = none) (hloaded : call.loaded = none)
    (hs : ∀ state' : Calls, state'.CallSound platform call) :
    Sound platform { cache := cache', calls := state.calls ++ [call], now := state.now + 1 } := by
  have hmem : ∀ y ∈ state.calls ++ [call], y ∈ state.calls ∨ y = call := by
    simp
  have hlater : Later platform state
      { cache := cache', calls := state.calls ++ [call], now := state.now + 1 } := by
    refine ⟨rfl, ?_, ?_⟩
    · rintro request source result time ⟨origin, hsource, horigin⟩
      exact ⟨origin, List.getElem?_append_left (List.getElem?_eq_some_iff.mp hsource).1 ▸ hsource,
        horigin⟩
    · intro write hwrite _ time htime
      rcases hmem write hwrite with hold | rfl
      · exact ⟨write, hold, rfl, .inl htime⟩
      · rw [hended] at htime
        cases htime
  have hkept : ∀ gate, Kept platform state
      { cache := cache', calls := state.calls ++ [call], now := state.now + 1 } gate := by
    refine fun gate => ⟨by rw [hcache.gates], fun write hwrite hon out hph => ?_⟩
    rcases hmem write hwrite with hold | rfl
    · exact ⟨write, hold, hon, out, hph⟩
    · rw [hph] at hholds
      cases hholds
  refine ⟨fun kind => hcache.arcs kind ▸ h.wellFormed kind, ?_, ?_, ?_, ?_, ?_⟩
  · intro y hother
    rcases hmem y hother with hold | rfl
    · exact h.wait.past y hold
    · exact ⟨hbegan ▸ Nat.lt_succ_self _, by simp [hended]⟩
  · intro i j first second hne hfirst hsecond hgate hexclusive
    rcases getElem?_concat_cases hfirst with hfirst | rfl
    · rcases getElem?_concat_cases hsecond with hsecond | rfl
      · exact h.locked i j first second hne hfirst hsecond hgate hexclusive
      · exact hholds
    · rw [hholds] at hexclusive
      cases hexclusive
  · intro kind key e hvalue
    rw [hcache.arcs] at hvalue
    exact (h.entries kind key e hvalue).later hlater fun gate => .inl (hkept gate)
  · intro y hother
    rcases hmem y hother with hold | rfl
    · exact (h.calls y hold).later hlater (h.past y hold).1 (fun gate => .inl (hkept gate))
        fun _ => hkept _
    · exact hs _
  · intro y hother
    rcases hmem y hother with hold | rfl
    · exact h.unloaded y hold
    · exact fun _ => hloaded

/-! ## The steps of a read -/

@[simp] lemma setCall_cache (state : Calls) (index : ℕ) (call : Call) :
    (state.setCall index call).cache = state.cache := rfl

@[simp] lemma goOn_cache (state : Calls) (index : ℕ) (call : Call) (phase : Phase) :
    (state.goOn index call phase).cache = state.cache := rfl

@[simp] lemma finish_cache (state : Calls) (index : ℕ) (call : Call) (out : Outcome) :
    (state.finish index call out).cache = state.cache := rfl

@[simp] lemma count_cache (state : Calls) (kind : Kind)
    (increment : MetadataCacheCounters → MetadataCacheCounters) :
    (state.count kind increment).cache = state.cache.count kind increment := rfl

@[simp] lemma count_enabled (cache : MetadataCache) (kind : Kind)
    (increment : MetadataCacheCounters → MetadataCacheCounters) :
    ((cache.count kind increment).banks kind).enabled = (cache.banks kind).enabled := by
  simp [MetadataCache.count, MetadataCache.setBank]

@[simp] lemma count_calls (state : Calls) (kind : Kind)
    (increment : MetadataCacheCounters → MetadataCacheCounters) :
    (state.count kind increment).calls = state.calls := rfl

@[simp] lemma count_now (state : Calls) (kind : Kind)
    (increment : MetadataCacheCounters → MetadataCacheCounters) :
    (state.count kind increment).now = state.now := rfl

lemma versioned_iff (hread : call.request.read? = some (kind, key)) :
    Versioned call.request ↔ kind.versioned := by
  constructor
  · rintro ⟨kind', key', hread', hvers⟩
    rw [hread] at hread'
    cases hread'
    exact hvers
  · exact fun hvers => ⟨kind, key, hread, hvers⟩

lemma Sound.settled (h : Sound platform state) (hcall : state.calls[index]? = some call)
    (hread : call.request.read? = some (kind, key)) (hholds : call.phase.holds = some .exclusive) :
    state.Settled platform (call.request.gate platform) state.now := by
  intro write hmem hwrite
  refine ⟨fun out hph => ?_, (h.past write hmem).2⟩
  obtain ⟨j, hj⟩ := mem_iff_getElem?.mp hmem
  have hne : index ≠ j := by
    rintro rfl
    obtain rfl := Option.some.inj (hcall.symm.trans hj)
    rw [hwrite.write] at hread
    cases hread
  have hnone := h.locked index j call write hne hcall hj hwrite.gate.symm hholds
  rw [hph] at hnone
  cases hnone

lemma fresh_of_loaded (hcall : state.calls[index]? = some call)
    (hloaded : call.loaded = some result)
    (hload : ∃ time, call.loadBegan = some time ∧ call.began ≤ time) :
    state.Fresh platform call result index := by
  obtain ⟨time, hbegan, hle⟩ := hload
  exact ⟨time, ⟨call, hcall, rfl, hbegan, hloaded⟩,
    fun write hmem hwrite ended hended hlt => lt_of_lt_of_le hlt hle⟩

lemma EntrySound.fresh {clock : ℤ} {snapshot : Snapshot} (h : state.EntrySound platform kind key e)
    (hread : call.request.read? = some (kind, key)) (hvers : kind.versioned)
    (henabled : (state.gate platform call.request).versionedCacheEnabled)
    (hhit : e.probe (state.gate platform call.request) kind.versioned clock = .hit snapshot) :
    state.Fresh platform call ⟨true, snapshot.value⟩ snapshot.source := by
  unfold Entry.probe at hhit
  cases hvalue : e.value with
  | none => simp [hvalue] at hhit
  | some stored =>
    simp only [hvalue, hvers, true_and] at hhit
    split_ifs at hhit with hstale
    obtain rfl := Probe.hit.inj hhit
    obtain ⟨request, time, hrequest, horigin, -, hsettled⟩ := h stored hvalue
    obtain rfl := Request.read?_inj hrequest hread
    have hgeneration : e.generation = (state.gate platform call.request).generation :=
      not_not.mp fun hne => hstale (.inr hne)
    exact ⟨time, horigin, (hsettled ⟨henabled, hgeneration⟩).endedBefore call.began⟩

lemma getElem?_moved (hcall : state.calls[index]? = some call) (call' : Call)
    (cache' : MetadataCache) : (state.moved index call' cache').calls[index]? = some call' :=
  List.getElem?_set_self (List.getElem?_eq_some_iff.mp hcall).1

section Read

variable (h : Sound platform state) (hcall : state.calls[index]? = some call)
  (hread : call.request.read? = some (kind, key)) {mode : Mode} {cache' : MetadataCache}
include h hcall

lemma Sound.finish_read {out : Outcome} (hread : call.request.read? = some (kind, key))
    (hcache : Alike state.cache cache')
    (hfresh : ∀ result source, out = .returned result source → Versioned call.request →
      state.Fresh platform call result source) : Sound platform (state.moved index
      { call with phase := .done out, ended := some state.now } cache') := by
  have hmoves : Moves platform state call
      { call with phase := .done out, ended := some state.now } cache' :=
    moves_finish hcache.gates (by simp [hread])
  refine h.progress hcall hmoves hcache ?_
  cases out with
  | returned result source =>
    exact fun hvers => (hfresh result source rfl hvers).later (hmoves.later hcall)
      (h.past call (mem_of_getElem? hcall)).1
  | wrote success | threw => trivial

include hread

lemma Sound.probing (hph : call.phase = .probing mode) (clock : ℤ) : Sound platform
      { state.resumeRead platform index call kind key clock with now := state.now + 1 } := by
  simp only [resumeRead, hph]
  split_ifs with hdisabled
  · refine h.progress hcall (h.moves_phase hcall rfl ?_ ?_ (by simp)) (.refl _) trivial
    · simp [hph, hasLoaded]
    · simp [hph, holds]
  · have hmoves : ∀ phase : Phase, phase.hasLoaded = false → phase.holds = some mode →
        (∀ out, phase ≠ .advanced out) →
        Moves platform state call { call with phase }
          (state.operate platform kind (.get key)).cache := by
      intro phase _ hholds
      refine h.moves_phase hcall rfl (by simp [hph, hasLoaded]) fun y hother => .inl ?_
      rw [hph, ← hother, hholds]
      rfl
    cases hget : ((state.cache.banks kind).arc.get platform.hash key).1 with
    | none => exact h.operated hcall (.refl _) (hmoves _ rfl rfl (by simp)) (by simp) trivial
    | some e =>
      have hfetched := hmoves (.fetched mode e) rfl rfl (by simp)
      refine h.operated hcall (.refl _) hfetched (by simp) ⟨fun kind' key' hread' => ?_, ?_⟩
      · cases hread.symm.trans hread'
        rw [HashArcCache.get_fst (h.wellFormed kind)] at hget
        exact (h.entries kind key e hget).later (hfetched.later hcall) hfetched.kept_or_advance
      · intro hvers
        rw [versioned_iff hread] at hvers
        have henabled : (state.gate platform call.request).versionedCacheEnabled := by
          simpa [hvers] using hdisabled
        exact henabled

lemma Sound.fetched (hph : call.phase = .fetched mode e) (clock : ℤ) : Sound platform
      { state.resumeRead platform index call kind key clock with now := state.now + 1 } := by
  simp only [resumeRead, hph]
  have hcallSound := h.calls call (mem_of_getElem? hcall)
  simp only [CallSound, hph] at hcallSound
  have hmoves : ∀ probe, Moves platform state call { call with phase := .probed mode probe }
      state.cache := by
    intro probe
    refine h.moves_phase hcall rfl ?_ ?_ nofun
    · simp [hph, hasLoaded]
    · simp [hph, holds]
  refine h.progress hcall (hmoves _) (.refl _) ?_
  cases hprobe : e.probe (state.gate platform call.request) kind.versioned clock with
  | hit snapshot =>
    intro hvers
    have hfresh := (hcallSound.1 kind key hread).fresh hread ((versioned_iff hread).mp hvers)
      (hcallSound.2 hvers) hprobe
    exact hfresh.later ((hmoves _).later hcall) (h.past call (mem_of_getElem? hcall)).1
  | miss | stale => trivial

lemma Sound.load {probe : Probe} (hph : call.phase = .probed .exclusive probe)
    {operated : Calls} (hoperated : operated = state ∨
      operated = state.operate platform kind (.erase key)) (hcache : Alike operated.cache cache') :
    Sound platform (state.moved index
      { call with phase := .loading true, loadBegan := some state.now } cache') := by
  have hloaded : call.loaded = none :=
    h.unloaded call (mem_of_getElem? hcall) (by simp [hph, hasLoaded])
  have hgates : cache'.gates = state.cache.gates := by
    rcases hoperated with rfl | rfl <;> exact hcache.gates
  have hmoves : Moves platform state call
      { call with phase := .loading true, loadBegan := some state.now } cache' := {
    request := rfl
    began := rfl
    origin := by simp [hloaded]
    unloaded := fun _ => hloaded
    ended := fun _ => .inl
    holds := by simp [hph, holds]
    gates := .inl ⟨hgates, by simp⟩ }
  have hsettled := h.settled hcall hread (by simp [hph, holds])
  have hbegan := (h.past call (mem_of_getElem? hcall)).1
  have hs : (state.moved index { call with
      phase := .loading true, loadBegan := some state.now } cache').CallSound platform
      { call with phase := .loading true, loadBegan := some state.now } := by
    refine ⟨by simp [hread], state.now, rfl, le_of_lt hbegan, fun _ => ?_⟩
    exact hsettled.later (hmoves.later hcall) (hmoves.kept (.inl ⟨hgates, by simp⟩))
  rcases hoperated with rfl | rfl
  · exact h.progress hcall hmoves hcache hs
  · exact h.operated hcall hcache hmoves (by simp) hs

lemma Sound.probed {probe : Probe} (hph : call.phase = .probed mode probe) (clock : ℤ) :
    Sound platform
      { state.resumeRead platform index call kind key clock with now := state.now + 1 } := by
  have hs := h.calls call (mem_of_getElem? hcall)
  simp only [CallSound, hph] at hs
  have hwait : Moves platform state call { call with phase := .waiting .exclusive }
      (state.cache.count kind fun c => { c with misses := c.misses + 1 }) :=
    h.moves_phase hcall rfl (by simp [hph, hasLoaded]) nofun nofun
  cases mode with
  | shared =>
    cases probe with
    | hit snapshot =>
      simp only [resumeRead, hph, finish_cache, count_cache]
      refine h.finish_read hcall hread (alike_count _ _ _) ?_
      rintro result source ⟨⟩
      exact hs
    | miss | stale =>
      simp only [resumeRead, hph, goOn_cache, count_cache]
      exact h.progress hcall hwait (alike_count _ _ _) trivial
  | exclusive =>
    cases probe with
    | hit snapshot =>
      simp only [resumeRead, hph, finish_cache, count_cache]
      refine h.finish_read hcall hread (alike_count _ _ _) ?_
      rintro result source ⟨⟩
      exact hs
    | miss =>
      simp only [resumeRead, hph, setCall_cache, count_cache]
      exact h.load hcall hread hph (.inl rfl) (alike_count _ _ _)
    | stale =>
      simp only [resumeRead, hph, setCall_cache, count_cache]
      exact h.load hcall hread hph (.inr rfl) (alike_count _ _ _)

/-- The loader has returned: the result is stored, unless it failed, is too large or the
gate is disabled. -/
lemma Sound.loaded {result : StorageContext} (hph : call.phase = .loaded (some result))
    (clock : ℤ) : Sound platform
      { state.resumeRead platform index call kind key clock with now := state.now + 1 } := by
  have hs := h.calls call (mem_of_getElem? hcall)
  simp only [CallSound, hph] at hs
  obtain ⟨hloaded, time, hload, hle, hsettled⟩ := hs
  have hfresh : ∀ result' source, Outcome.returned result index = .returned result' source →
      Versioned call.request → state.Fresh platform call result' source := by
    rintro _ _ ⟨⟩ -
    exact fresh_of_loaded hcall hloaded ⟨time, hload, hle⟩
  simp only [resumeRead, hph]
  split_ifs with hfailed hskip
  · exact h.finish_read hcall hread (.refl _) hfresh
  · simp only [finish_cache, count_cache]
    exact h.finish_read hcall hread (alike_count _ _ _) hfresh
  · have hmoves : ∀ cache', cache'.gates = state.cache.gates →
        Moves platform state call { call with phase := .stored result } cache' := by
      intro cache' hgates
      refine h.moves_phase hcall hgates (by simp [hasLoaded]) ?_ (by simp)
      simp [hph, holds]
    have hlasts : ∀ cache', cache'.gates = state.cache.gates →
        (state.moved index { call with phase := .stored result } cache').Settled platform
          (call.request.gate platform) time := fun cache' hgates =>
      hsettled.later ((hmoves cache' hgates).later hcall)
        ((hmoves cache' hgates).kept (.inl ⟨hgates, by simp⟩))
    refine h.operated hcall (.refl _) (hmoves _ rfl) ?_ ⟨hloaded, time, hload, hle⟩
    rintro _ _ ⟨⟩ _ ⟨⟩
    refine ⟨call.request, time, hread, ?_, le_refl _, fun _ => ?_⟩
    · refine ⟨_, getElem?_moved hcall _ _, rfl, hload, ?_⟩
      have hsuccess : result.success = true := by simpa using hfailed
      rw [← hsuccess]
      exact hloaded
    · exact hlasts _ rfl

lemma Sound.resumeRead (clock : ℤ) : Sound platform
      { state.resumeRead platform index call kind key clock with now := state.now + 1 } := by
  have hs := h.calls call (mem_of_getElem? hcall)
  cases hph : call.phase with
  | waiting mode =>
    simp only [Calls.resumeRead, hph]
    split_ifs with hadmits
    · refine h.progress hcall (h.moves_phase hcall rfl ?_ ?_ nofun) (.refl _) trivial
      · simp [hph, hasLoaded]
      · rintro _ ⟨⟩
        exact .inr hadmits
    · exact h.wait
  | probing mode => exact h.probing hcall hread hph clock
  | fetched mode e => exact h.fetched hcall hread hph clock
  | probed mode probe => exact h.probed hcall hread hph clock
  | loaded result =>
    cases result with
    | none =>
      simp only [Calls.resumeRead, hph]
      exact h.finish_read hcall hread (.refl _) nofun
    | some result => exact h.loaded hcall hread hph clock
  | stored result =>
    simp only [CallSound, hph] at hs
    simp only [Calls.resumeRead, hph]
    refine h.finish_read hcall hread (.refl _) ?_
    rintro _ _ ⟨⟩ -
    exact fresh_of_loaded hcall hs.1 hs.2
  | _ =>
    simp only [Calls.resumeRead, hph]
    exact h.wait

end Read

/-! ## Every step -/

lemma Sound.loaderEnds (h : Sound platform state) (hcall : state.calls[index]? = some call)
    (out : Option StorageContext) :
    Sound platform { state.loaderEnds index call out with now := state.now + 1 } := by
  have hmem := mem_of_getElem? hcall
  have hs := h.calls call hmem
  cases hph : call.phase with
  | loading locked =>
    simp only [CallSound, hph] at hs
    obtain ⟨hread, time, hload, hle, hsettled⟩ := hs
    have hloaded : call.loaded = none := h.unloaded call hmem (by simp [hph, hasLoaded])
    cases locked with
    | true =>
      simp only [Calls.loaderEnds, hph]
      have hmoves : Moves platform state call
          { call with phase := .loaded out, loaded := out } state.cache := {
        request := rfl
        began := rfl
        origin := by simp [hloaded]
        unloaded := by simp [hasLoaded]
        ended := fun _ => .inl
        holds := by simp [hph, holds]
        gates := .inl ⟨rfl, by simp⟩ }
      refine h.progress hcall hmoves (.refl _) ⟨rfl, time, hload, hle, ?_⟩
      exact (hsettled rfl).later (hmoves.later hcall) (hmoves.kept (.inl ⟨rfl, by simp⟩))
    | false =>
      simp only [Calls.loaderEnds, hph]
      have hmoves : ∀ last, Moves platform state call { call with
          phase := .done last, loaded := out, ended := some state.now } state.cache :=
        fun last => {
          request := rfl
          began := rfl
          origin := by simp [hloaded]
          unloaded := by simp [hasLoaded]
          ended := fun _ hended => .inr ⟨(Option.some.inj hended).symm, fun hnone =>
            absurd hnone hread⟩
          holds := by simp [holds]
          gates := .inl ⟨rfl, by simp⟩ }
      refine h.progress hcall (hmoves _) (.refl _) ?_
      cases out with
      | none => trivial
      | some result =>
        exact fun _ => fresh_of_loaded (getElem?_moved hcall _ _) rfl ⟨time, hload, hle⟩
  | _ =>
    simp only [Calls.loaderEnds, hph]
    exact h.wait

lemma Sound.resumeWrite (h : Sound platform state) (hcall : state.calls[index]? = some call)
    (hwrite : call.request.read? = none) :
    Sound platform { state.resumeWrite platform index call with now := state.now + 1 } := by
  have hnot : ¬ Versioned call.request := by
    rintro ⟨kind, key, hread, -⟩
    rw [hwrite] at hread
    cases hread
  cases hph : call.phase with
  | waiting mode =>
    simp only [Calls.resumeWrite, hph]
    split_ifs with hadmits
    · refine h.progress hcall (h.moves_phase hcall rfl ?_ ?_ nofun) (.refl _) trivial
      · simp [hph, hasLoaded]
      · rintro _ ⟨⟩
        exact .inr hadmits
    · exact h.wait
  | written out =>
    simp only [Calls.resumeWrite, hph]
    have hloaded : call.loaded = none :=
      h.unloaded call (mem_of_getElem? hcall) (by simp [hph, hasLoaded])
    refine h.moved hcall ?_ h.wellFormed (fun kind key e => .inl) trivial
    exact {
      request := rfl
      began := rfl
      origin := fun _ hresult => ⟨hresult, rfl⟩
      unloaded := fun _ => hloaded
      ended := fun _ => .inl
      holds := by simp [hph, holds]
      gates := .inr ⟨by simp [hph, holds], rfl⟩ }
  | advanced out =>
    simp only [Calls.resumeWrite, hph]
    refine h.progress hcall (moves_finish rfl fun _ => ⟨out, hph⟩) (.refl _) ?_
    cases out with
    | returned result source => exact fun hvers => absurd hvers hnot
    | wrote success | threw => trivial
  | _ =>
    simp only [Calls.resumeWrite, hph]
    exact h.wait

lemma Sound.writerEnds (h : Sound platform state) (hcall : state.calls[index]? = some call)
    (success : Option Bool) :
    Sound platform { state.writerEnds index call success with now := state.now + 1 } := by
  cases hph : call.phase with
  | writing =>
    simp only [Calls.writerEnds, hph]
    refine h.progress hcall (h.moves_phase hcall rfl ?_ ?_ nofun) (.refl _) trivial
    · simp [hph, hasLoaded]
    · simp [hph, holds]
  | _ =>
    simp only [Calls.writerEnds, hph]
    exact h.wait

lemma Sound.step (h : Sound platform state) (event : Event) :
    Sound platform (state.step platform event) := by
  cases event with
  | enter request =>
    simp only [Calls.step, act, Calls.enter]
    cases hread : request.read? with
    | none => exact h.enter (.refl _) rfl rfl rfl rfl fun _ => trivial
    | some target =>
      simp only [count_cache, count_calls, count_now, count_enabled]
      cases (state.cache.banks target.1).enabled with
      | true =>
        simp only [if_true]
        exact h.enter (alike_count _ _ _) rfl rfl rfl rfl fun _ => trivial
      | false =>
        simp only [Bool.false_eq_true, if_false]
        refine h.enter ((alike_count _ _ _).trans (alike_count _ _ _)) rfl rfl rfl rfl ?_
        exact fun _ => ⟨by simp [hread], state.now, rfl, le_refl _, nofun⟩
  | resume index clock =>
    simp only [Calls.step, act]
    cases hcall : state.calls[index]? with
    | none => exact h.wait
    | some call =>
      simp only [resume]
      cases hread : call.request.read? with
      | none => exact h.resumeWrite hcall hread
      | some target => exact h.resumeRead hcall hread clock
  | loaderEnds index out =>
    simp only [Calls.step, act]
    cases hcall : state.calls[index]? with
    | none => exact h.wait
    | some call => exact h.loaderEnds hcall out
  | writerEnds index success =>
    simp only [Calls.step, act]
    cases hcall : state.calls[index]? with
    | none => exact h.wait
    | some call => exact h.writerEnds hcall success

lemma exists_of_bind_eq_ok {α β ε : Type} {first : Except ε α} {rest : α → Except ε β}
    {final : β} (h : (first >>= rest) = .ok final) :
    ∃ value, first = .ok value ∧ rest value = .ok final := by
  cases first with
  | error error => cases h
  | ok value => exact ⟨value, rfl, h⟩

lemma bank_new_arc {capacity shards byteLimit : ℕ} {lifetime : ℤ} {bank : Bank}
    (hnew : Bank.new platform capacity shards lifetime byteLimit = .ok bank) :
    ∃ size, bank.arc = .new platform.hardwareConcurrency size shards := by
  obtain ⟨ttl, -, hbank⟩ := exists_of_bind_eq_ok hnew
  obtain rfl := Except.ok.inj hbank
  exact ⟨_, rfl⟩

lemma new_arcs (hnew : new platform config = .ok cache) (kind : Kind) :
    ∃ size, (cache.banks kind).arc = .new platform.hardwareConcurrency size config.arcShards := by
  obtain ⟨lists, hlists, hnew⟩ := exists_of_bind_eq_ok hnew
  obtain ⟨downloads, hdownloads, hnew⟩ := exists_of_bind_eq_ok hnew
  obtain ⟨paths, hpaths, hnew⟩ := exists_of_bind_eq_ok hnew
  obtain rfl := Except.ok.inj hnew
  cases kind with
  | list => exact bank_new_arc hlists
  | download => exact bank_new_arc hdownloads
  | cd => exact bank_new_arc hpaths

lemma new_sound
    (hnew : new platform config = .ok cache) : Sound platform { cache } where
  wellFormed kind := by
    obtain ⟨size, harc⟩ := new_arcs hnew kind
    exact harc ▸ HashArcCache.new_wellFormed _ _ _
  past := by simp
  locked := by simp
  entries kind key e hvalue := by
    obtain ⟨size, harc⟩ := new_arcs hnew kind
    rw [harc] at hvalue
    cases HashArcCache.run_value _ _ _ [] hvalue
  calls := by simp
  unloaded := by simp

/-- Whatever the reads and writes of a cache do, the result of a finished listing or
download lookup was returned by the loader of a call with the same arguments, which ran
after every write to the directory that had ended when the read began. -/
theorem metadataCache_fresh (platform : Platform) (config : MetadataCacheConfig)
    {cache : MetadataCache} (hnew : new platform config = .ok cache)
    (events : List Event) {call : Call}
    (hcall : call ∈ (run (step platform) { cache } events).calls)
    (hversioned : Versioned call.request) {result : StorageContext} {source : ℕ}
    (hdone : call.phase = .done (.returned result source)) :
    ∃ origin time, (run (step platform) { cache } events).calls[source]? = some origin ∧
      origin.request = call.request ∧ origin.loaded = some result ∧ origin.loadBegan = some time ∧
      ∀ write ∈ (run (step platform) { cache } events).calls,
        write.request = .write call.request.username call.request.directory →
        ∀ ended, write.ended = some ended → ended < call.began → ended < time := by
  have hstep : ∀ (state : Calls) event, Sound platform state →
      Sound platform (state.step platform event) := fun _ event h => h.step event
  have hsound := (run_invariant hstep (new_sound hnew) events).calls call hcall
  simp only [CallSound, hdone] at hsound
  obtain ⟨time, ⟨origin, hsource, hrequest, hbegan, hloaded⟩, hended⟩ := hsound hversioned
  refine ⟨origin, time, hsource, hrequest, hloaded, hbegan, fun write hmem hwrite => ?_⟩
  refine hended write hmem ⟨by rw [hwrite]; rfl, ?_⟩
  rw [Request.gate, Request.gate, hwrite]
  rfl

def sampleEvents : List Event :=
  [.enter (.write [97] [47]), .resume 0 0, .writerEnds 0 none, .resume 0 0, .resume 0 0,
    .enter (.list [97] [47]), .resume 1 0, .resume 1 0, .resume 1 0, .resume 1 0, .resume 1 0,
    .resume 1 0, .loaderEnds 1 (some ⟨true, .files []⟩), .resume 1 0, .resume 1 0,
    .enter (.list [97] [47]), .resume 2 0, .resume 2 0, .resume 2 0, .resume 2 0]

def samplePlatform : Platform := ⟨length, 1, 24, 128⟩

def sampleConfig : MetadataCacheConfig :=
  { listCapacity := 1, downloadCapacity := 0, cdCapacity := 0, arcShards := 1 }

def sampleCache : MetadataCache where
  banks
    | .list => { enabled := true, ttl := 5000, maxBytes := 64 * 1024, arc := .new 1 1 1 }
    | .download => { enabled := false, ttl := 30000, maxBytes := noByteLimit, arc := .new 1 0 1 }
    | .cd => { enabled := false, ttl := 60000, maxBytes := noByteLimit, arc := .new 1 0 1 }

theorem metadataCache_fresh_sampleEvents : ∃ origin time,
      (run (step samplePlatform) { cache := sampleCache } sampleEvents).calls[1]? =
        some origin ∧
      origin.loaded = some ⟨true, .files []⟩ ∧ origin.loadBegan = some time ∧ 4 < time := by
  have hnew : new samplePlatform sampleConfig = .ok sampleCache := rfl
  have hcalls : (run (step samplePlatform) { cache := sampleCache } sampleEvents).calls =
      [⟨.write [97] [47], .done .threw, 0, none, none, some 4⟩,
        ⟨.list [97] [47], .done (.returned ⟨true, .files []⟩ 1), 5, some 11,
          some ⟨true, .files []⟩, some 14⟩,
        ⟨.list [97] [47], .done (.returned ⟨true, .files []⟩ 1), 15, none, none, some 19⟩] := by
    decide +kernel
  have hsecond : ⟨.list [97] [47], .done (.returned ⟨true, .files []⟩ 1), 15, none, none,
      some 19⟩ ∈ (run (step samplePlatform) { cache := sampleCache } sampleEvents).calls := by
    simp [hcalls]
  obtain ⟨origin, time, hsource, -, hloaded, hbegan, hwrites⟩ :=
    metadataCache_fresh samplePlatform sampleConfig hnew sampleEvents hsecond
      ⟨.list, _, rfl, rfl⟩ rfl
  refine ⟨origin, time, hsource, hloaded, hbegan, ?_⟩
  exact hwrites _ (by rw [hcalls]; exact mem_cons_self) rfl 4 rfl (by decide)

end Calls

end Tlss.Ftp
