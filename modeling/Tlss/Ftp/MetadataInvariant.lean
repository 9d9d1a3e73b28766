import Tlss.Ftp.MetadataCache

/-!
# What a metadata entry stands for

The invariant follows an entry. Its generation is never above the one of its gate, and
as long as the two are equal and the gate is enabled, the entry was loaded after every
write on the gate that has ended, and no write is between its advance and its release:
`EntrySound`. A write outdates all entries of its gate before it ends, because `advance`
either counts up or disables the gate; it never returns to a generation that was used
before.

What one call relies on is changed by another call only through a gate, and no other call
advances a gate while this one holds it: `CallSound.later`. So a step has to be looked at
for the call that moves only, `Sound.moved`.
-/

namespace Tlss.Ftp

open Library Cache List Option MetadataCache

/-! ## Keys -/

lemma makeKey_append_inj {user dir username' directory' rest rest' : Bytes}
    (heq : makeKey user dir ++ rest = makeKey username' directory' ++ rest') :
    user = username' ∧ dir = directory' ∧ rest = rest' := by
  simp only [makeKey, appendField, nil_append, append_assoc] at heq
  obtain ⟨husername, hrest⟩ := lengthPrefixed_append_inj heq
  exact ⟨husername, lengthPrefixed_append_inj hrest⟩

lemma makeKey_begins {user dir username' directory' rest : Bytes}
    (heq : makeKey user dir ++ rest = makeKey username' directory') :
    user = username' ∧ dir = directory' := by
  rw [← append_nil (makeKey username' directory')] at heq
  obtain ⟨husername, hdirectory, -⟩ := makeKey_append_inj heq
  exact ⟨husername, hdirectory⟩

lemma makeArgumentKey_begins {user dir argument username' directory' argument' rest : Bytes}
    (heq : makeArgumentKey user dir argument ++ rest =
      makeArgumentKey username' directory' argument') :
    user = username' ∧ dir = directory' ∧ argument = argument' := by
  simp only [makeArgumentKey, appendField, append_assoc] at heq
  obtain ⟨husername, hdirectory, hrest⟩ := makeKey_append_inj heq
  rw [← append_nil (lengthPrefixed argument')] at hrest
  exact ⟨husername, hdirectory, (lengthPrefixed_append_inj hrest).1⟩

/-- The keys of two fields and those of three give back their fields, no key is both, and a key
that another key of as many fields begins with is that key. -/
theorem keys_unambiguous (username directory argument username' directory' argument' : Bytes) :
    (makeKey username directory = makeKey username' directory' →
      username = username' ∧ directory = directory') ∧
    (makeArgumentKey username directory argument = makeArgumentKey username' directory' argument' →
      username = username' ∧ directory = directory' ∧ argument = argument') ∧
    makeKey username directory ≠ makeArgumentKey username' directory' argument' ∧
    (makeKey username directory <+: makeKey username' directory' →
      makeKey username directory = makeKey username' directory') ∧
    (makeArgumentKey username directory argument <+:
        makeArgumentKey username' directory' argument' →
      makeArgumentKey username directory argument =
        makeArgumentKey username' directory' argument') := by
  refine ⟨fun heq => makeKey_begins ((append_nil _).trans heq),
    fun heq => makeArgumentKey_begins ((append_nil _).trans heq), fun heq => ?_, ?_, ?_⟩
  · rw [← append_nil (makeKey username directory), makeArgumentKey, appendField] at heq
    obtain ⟨-, -, hnil⟩ := makeKey_append_inj heq
    simp [lengthPrefixed] at hnil
  · rintro ⟨rest, heq⟩
    obtain ⟨rfl, rfl⟩ := makeKey_begins heq
    rfl
  · rintro ⟨rest, heq⟩
    obtain ⟨rfl, rfl, rfl⟩ := makeArgumentKey_begins heq
    rfl

lemma Request.read?_inj {req y : Request} {target : Kind × Bytes}
    (hreq : req.read? = some target) (hother : y.read? = some target) : req = y := by
  have heq := hreq.trans hother.symm
  cases req <;> cases y <;>
    simp only [Request.read?, some.injEq, Prod.mk.injEq, reduceCtorEq, true_and, false_and] at heq
  · obtain ⟨rfl, rfl⟩ := makeKey_begins ((append_nil _).trans heq)
    rfl
  · obtain ⟨rfl, rfl, rfl⟩ := makeArgumentKey_begins ((append_nil _).trans heq)
    rfl
  · obtain ⟨rfl, rfl, rfl⟩ := makeArgumentKey_begins ((append_nil _).trans heq)
    rfl
  · cases hreq

/-! ## Generations -/

namespace DirectoryGate

def Accepts (gate : DirectoryGate) (generation : UInt64) : Prop :=
  gate.versionedCacheEnabled = true ∧ generation = gate.generation

def Covers (gate : DirectoryGate) (generation : UInt64) : Prop :=
  generation.toNat ≤ gate.generation.toNat

variable {gate : DirectoryGate} {generation : UInt64}

lemma toNat_generation_advance (hlast : gate.generation ≠ 18446744073709551615) :
    (gate.generation + 1).toNat = gate.generation.toNat + 1 := by
  have hne : gate.generation.toNat ≠ 18446744073709551615 := fun h =>
    hlast (UInt64.toNat_inj.mp h)
  have hlt := gate.generation.toNat_lt
  rw [UInt64.toNat_add]
  exact Nat.mod_eq_of_lt (by change _ + 1 < _; omega)

lemma Covers.advance (h : gate.Covers generation) : gate.advance.Covers generation := by
  unfold Covers DirectoryGate.advance at *
  split_ifs with hlast
  · exact h
  · rw [toNat_generation_advance hlast]
    omega

lemma Covers.not_accepts_advance
    (h : gate.Covers generation) : ¬ gate.advance.Accepts generation := by
  unfold Covers Accepts DirectoryGate.advance at *
  split_ifs with hlast
  · exact fun haccepts => haccepts.1
  · rintro ⟨-, rfl⟩
    rw [toNat_generation_advance hlast] at h
    omega

end DirectoryGate

/-! ## What the calls know -/

def Phase.hasLoaded : Phase → Bool
  | loaded _ | stored _ | done _ => true
  | _ => false

namespace Calls

variable {p : Platform} {s state' : Calls} {req : Request}
  {gate : Fin directoryGateCount} {source time : ℕ} {result : StorageContext} {call : Call}
  {kind : Kind}

def Origin (state : Calls) (request : Request) (source : ℕ) (result : StorageContext) (time : ℕ) :
    Prop :=
  ∃ origin, state.calls[source]? = some origin ∧ origin.request = request ∧
    origin.loadBegan = some time ∧ origin.loaded = some result

/-- The call is a write behind this gate. -/
structure WriteOn (platform : Platform) (gate : Fin directoryGateCount) (call : Call) : Prop where
  write : call.request.read? = none
  gate : call.request.gate platform = gate

def Settled (platform : Platform) (state : Calls) (gate : Fin directoryGateCount) (time : ℕ) :
    Prop :=
  ∀ write ∈ state.calls, WriteOn platform gate write →
    (∀ outcome, write.phase ≠ .advanced outcome) ∧ ∀ ended, write.ended = some ended → ended < time

def EndedBefore (platform : Platform) (state : Calls) (gate : Fin directoryGateCount)
    (began time : ℕ) : Prop :=
  ∀ write ∈ state.calls, WriteOn platform gate write →
    ∀ ended, write.ended = some ended → ended < began → ended < time

def EntrySound (platform : Platform) (state : Calls) (kind : Kind) (key : Bytes) (entry : Entry) :
    Prop :=
  ∀ snapshot, entry.value = some snapshot → ∃ request time,
    request.read? = some (kind, key) ∧
      state.Origin request snapshot.source ⟨true, snapshot.value⟩ time ∧
      (state.gate platform request).Covers entry.generation ∧
      ((state.gate platform request).Accepts entry.generation →
        state.Settled platform (request.gate platform) time)

/-- A result that a read may return: its loader ran after the writes before the read. -/
def Fresh (platform : Platform) (state : Calls) (call : Call) (result : StorageContext)
    (source : ℕ) : Prop :=
  ∃ time, state.Origin call.request source result time ∧
    state.EndedBefore platform (call.request.gate platform) call.began time

def Versioned (request : Request) : Prop :=
  ∃ kind key, request.read? = some (kind, key) ∧ kind.versioned = true

def CallSound (platform : Platform) (state : Calls) (call : Call) : Prop :=
  match call.phase with
  | .fetched _ entry =>
    (∀ kind key, call.request.read? = some (kind, key) → state.EntrySound platform kind key entry) ∧
      (Versioned call.request → (state.gate platform call.request).versionedCacheEnabled = true)
  | .probed _ (.hit snapshot) =>
    Versioned call.request → state.Fresh platform call ⟨true, snapshot.value⟩ snapshot.source
  | .loading locked =>
    call.request.read? ≠ none ∧ ∃ time, call.loadBegan = some time ∧ call.began ≤ time ∧
      (locked = true → state.Settled platform (call.request.gate platform) time)
  | .loaded result =>
    call.loaded = result ∧ ∃ time, call.loadBegan = some time ∧ call.began ≤ time ∧
      state.Settled platform (call.request.gate platform) time
  | .stored result =>
    call.loaded = some result ∧ ∃ time, call.loadBegan = some time ∧ call.began ≤ time
  | .done (.returned result source) =>
    Versioned call.request → state.Fresh platform call result source
  | _ => True

/-- The gates are held as locks are, and the entries and calls are sound. -/
structure Sound (platform : Platform) (state : Calls) : Prop where
  wellFormed : ∀ kind, (state.cache.banks kind).arc.WellFormed
  past : ∀ call ∈ state.calls, call.began < state.now ∧
    ∀ ended, call.ended = some ended → ended < state.now
  /-- Who holds a gate exclusively holds it alone. -/
  locked : ∀ (i j : ℕ) (call other : Call), i ≠ j → state.calls[i]? = some call →
    state.calls[j]? = some other → call.request.gate platform = other.request.gate platform →
    call.phase.holds = some .exclusive → other.phase.holds = none
  entries : ∀ kind key entry, (state.cache.banks kind).arc.value platform.hash key = some entry →
    state.EntrySound platform kind key entry
  calls : ∀ call ∈ state.calls, state.CallSound platform call
  unloaded : ∀ call ∈ state.calls, call.phase.hasLoaded = false → call.loaded = none

/-! ## What lasts -/

/-- One step on: loads stay, and only a write that has advanced its gate ends. -/
structure Later (platform : Platform) (state state' : Calls) : Prop where
  now : state'.now = state.now + 1
  origin : ∀ {request source result time}, state.Origin request source result time →
    state'.Origin request source result time
  ended : ∀ write' ∈ state'.calls, write'.request.read? = none → ∀ time,
    write'.ended = some time → ∃ write ∈ state.calls, write.request = write'.request ∧
      (write.ended = some time ∨ time = state.now ∧ ∃ outcome, write.phase = .advanced outcome)

/-- No write advances this gate. -/
structure Kept (platform : Platform) (state state' : Calls) (gate : Fin directoryGateCount) :
    Prop where
  unchanged : state'.cache.gates gate = state.cache.gates gate
  advanced : ∀ write' ∈ state'.calls, WriteOn platform gate write' → ∀ outcome,
    write'.phase = .advanced outcome → ∃ write ∈ state.calls, WriteOn platform gate write ∧
      ∃ outcome, write.phase = .advanced outcome

lemma WriteOn.of_request_eq {y : Call} (h : WriteOn p gate call)
    (heq : y.request = call.request) : WriteOn p gate y :=
  ⟨heq ▸ h.write, heq ▸ h.gate⟩

lemma Settled.later (h : s.Settled p gate time)
    (hlat : Later p s state') (hkept : Kept p s state' gate) : state'.Settled p gate time := by
  intro write' hmem' hwrite'
  refine ⟨fun out hph => ?_, fun ended hended => ?_⟩
  · obtain ⟨write, hmem, hwrite, before, hbefore⟩ :=
      hkept.advanced write' hmem' hwrite' out hph
    exact (h write hmem hwrite).1 before hbefore
  · obtain ⟨write, hmem, hreq, hcases⟩ := hlat.ended write' hmem' hwrite'.write ended hended
    have hwrite := h write hmem (hwrite'.of_request_eq hreq)
    rcases hcases with hended | ⟨-, out, hph⟩
    · exact hwrite.2 ended hended
    · exact absurd hph (hwrite.1 out)

lemma EndedBefore.later {began : ℕ} (h : s.EndedBefore p gate began time)
    (hlat : Later p s state') (hbegan : began < s.now) : state'.EndedBefore p gate began time := by
  intro write' hmem' hwrite' ended hended hlt
  obtain ⟨write, hmem, hreq, hcases⟩ := hlat.ended write' hmem' hwrite'.write ended hended
  rcases hcases with hended | ⟨rfl, -⟩
  · exact h write hmem (hwrite'.of_request_eq hreq) ended hended hlt
  · omega

lemma Settled.endedBefore (h : s.Settled p gate time) (began : ℕ) :
    s.EndedBefore p gate began time :=
  fun write hmem hwrite ended hended _ => (h write hmem hwrite).2 ended hended

lemma Fresh.later (h : s.Fresh p call result source)
    (hlat : Later p s state') (hbegan : call.began < s.now) :
    state'.Fresh p call result source := by
  obtain ⟨time, horigin, hended⟩ := h
  exact ⟨time, hlat.origin horigin, hended.later hlat hbegan⟩

lemma EntrySound.later {key : Bytes} {e : Entry}
    (h : s.EntrySound p kind key e) (hlat : Later p s state')
    (hgates : ∀ gate, Kept p s state' gate ∨
      state'.cache.gates gate = (s.cache.gates gate).advance) : state'.EntrySound p kind key e := by
  intro snapshot hsnapshot
  obtain ⟨req, time, hread, horigin, hcovers, hsettled⟩ := h snapshot hsnapshot
  refine ⟨req, time, hread, hlat.origin horigin, ?_⟩
  rcases hgates (req.gate p) with hkept | hadvance
  · rw [Calls.gate, hkept.unchanged]
    exact ⟨hcovers, fun haccepts => (hsettled haccepts).later hlat hkept⟩
  · rw [Calls.gate, hadvance]
    exact ⟨hcovers.advance, fun haccepts => absurd haccepts hcovers.not_accepts_advance⟩

lemma CallSound.later (h : s.CallSound p call)
    (hlat : Later p s state') (hbegan : call.began < s.now) (hgates : ∀ gate, Kept p s state' gate ∨
      state'.cache.gates gate = (s.cache.gates gate).advance)
    (hheld : call.phase.holds ≠ none → Kept p s state' (call.request.gate p)) :
    state'.CallSound p call := by
  unfold CallSound at h ⊢
  cases hph : call.phase with
  | fetched mode e =>
    simp only [hph] at h ⊢
    have hkept := hheld (by simp [hph, Phase.holds])
    refine ⟨fun kind key hread => (h.1 kind key hread).later hlat hgates, fun hvers => ?_⟩
    rw [Calls.gate, hkept.unchanged]
    exact h.2 hvers
  | probed mode probe =>
    cases probe with
    | hit snapshot =>
      simp only [hph] at h ⊢
      exact fun hvers => (h hvers).later hlat hbegan
    | _ => trivial
  | loading locked =>
    simp only [hph] at h ⊢
    obtain ⟨hread, time, hload, hle, hsettled⟩ := h
    refine ⟨hread, time, hload, hle, ?_⟩
    rintro rfl
    exact (hsettled rfl).later hlat (hheld (by simp [hph, Phase.holds]))
  | loaded result =>
    simp only [hph] at h ⊢
    obtain ⟨hloaded, time, hload, hle, hsettled⟩ := h
    exact ⟨hloaded, time, hload, hle, hsettled.later hlat (hheld (by simp [hph, Phase.holds]))⟩
  | stored result =>
    simp only [hph] at h ⊢
    exact h
  | done out =>
    cases out with
    | returned result source =>
      simp only [hph] at h ⊢
      exact fun hvers => (h hvers).later hlat hbegan
    | _ => trivial
  | _ => trivial

/-! ## One call moves -/

section Move

variable {index : ℕ} {call call' y : Call} {cache' : MetadataCache}

def moved (state : Calls) (index : ℕ) (call : Call) (cache : MetadataCache) : Calls :=
  { cache, calls := state.calls.set index call, now := state.now + 1 }

/-- One call moves on. -/
structure Moves (platform : Platform) (state : Calls) (call call' : Call)
    (cache' : MetadataCache) : Prop where
  request : call'.request = call.request
  began : call'.began = call.began
  origin : ∀ result, call.loaded = some result →
    call'.loaded = some result ∧ call'.loadBegan = call.loadBegan
  unloaded : call'.phase.hasLoaded = false → call'.loaded = none
  ended : ∀ time, call'.ended = some time → call.ended = some time ∨
    time = state.now ∧ (call.request.read? = none → ∃ outcome, call.phase = .advanced outcome)
  holds : ∀ mode, call'.phase.holds = some mode →
    call.phase.holds = some mode ∨ state.admits platform mode (call.request.gate platform) = true
  gates : (cache'.gates = state.cache.gates ∧ ∀ outcome, call'.phase ≠ .advanced outcome) ∨
    call.phase.holds = some .exclusive ∧
      cache'.gates = Function.update state.cache.gates (call.request.gate platform)
        (state.gate platform call.request).advance

lemma mem_set_cases (hmem : y ∈ s.calls.set index call') : y ∈ s.calls ∨ y = call' :=
  mem_or_eq_of_mem_set hmem

section

variable (h : Moves p s call call' cache')
include h

lemma Moves.later (hcall : s.calls[index]? = some call) :
    Later p s (s.moved index call' cache') where
  now := rfl
  origin := by
    rintro req source result time ⟨origin, hsource, hreq, hload, hloaded⟩
    by_cases heq : index = source
    · subst heq
      obtain rfl : call = origin := some.inj (hcall.symm.trans hsource)
      obtain ⟨hloaded', hload'⟩ := h.origin result hloaded
      refine ⟨call', ?_, h.request.trans hreq, hload'.trans hload, hloaded'⟩
      exact List.getElem?_set_self (List.getElem?_eq_some_iff.mp hcall).1
    · exact ⟨origin, (getElem?_set_ne heq).trans hsource, hreq, hload, hloaded⟩
  ended := by
    intro write' hmem hwrite time hended
    rcases mem_set_cases hmem with hold | rfl
    · exact ⟨write', hold, rfl, .inl hended⟩
    · refine ⟨call, mem_of_getElem? hcall, h.request.symm, ?_⟩
      exact (h.ended time hended).imp_right fun hnow =>
        hnow.imp_right fun hadvanced => hadvanced (h.request ▸ hwrite)

lemma Moves.kept {gate : Fin directoryGateCount} (hgate : cache'.gates = s.cache.gates ∧
      (∀ out, call'.phase ≠ .advanced out) ∨ gate ≠ call.request.gate p) :
    Kept p s (s.moved index call' cache') gate where
  unchanged := by
    change cache'.gates gate = _
    rcases hgate with ⟨heq, -⟩ | hne
    · rw [heq]
    · rcases h.gates with ⟨heq, -⟩ | ⟨-, heq⟩
      · rw [heq]
      · rw [heq, Function.update_of_ne hne]
  advanced := by
    intro write' hmem hwrite out hph
    rcases mem_set_cases hmem with hold | rfl
    · exact ⟨write', hold, hwrite, out, hph⟩
    · rcases hgate with ⟨-, hnot⟩ | hne
      · exact absurd hph (hnot out)
      · exact absurd (h.request ▸ hwrite.gate).symm hne

lemma Moves.kept_or_advance (gate : Fin directoryGateCount) :
    Kept p s (s.moved index call' cache') gate ∨
      cache'.gates gate = (s.cache.gates gate).advance := by
  rcases h.gates with hsame | ⟨-, heq⟩
  · exact .inl (h.kept (.inl hsame))
  · by_cases hgate : gate = call.request.gate p
    · right
      rw [heq, hgate, Function.update_self]
      rfl
    · exact .inl (h.kept (.inr hgate))

omit h in
/-- A call that gets the mutex finds no one else with it, unless both share it. -/
lemma admits_iff {mode : Mode} : s.admits p mode gate = true ↔
    ∀ call ∈ s.calls, call.request.gate p = gate →
      (mode = .shared → call.phase.holds ≠ some .exclusive) ∧
        (mode = .exclusive → call.phase.holds = none) := by
  cases mode <;> simp [admits, imp_iff_not_or]

lemma Moves.locked (hs : Sound p s) (hcall : s.calls[index]? = some call)
    {j : ℕ} (hne : index ≠ j) (hother : s.calls[j]? = some y)
    (hgate : call.request.gate p = y.request.gate p) :
    (call'.phase.holds = some .exclusive → y.phase.holds = none) ∧
      (y.phase.holds = some .exclusive → call'.phase.holds = none) := by
  have hmem := mem_of_getElem? hother
  refine ⟨fun hholds => ?_, fun hholds => ?_⟩
  · rcases h.holds .exclusive hholds with hheld | hadmits
    · exact hs.locked index j call y hne hcall hother hgate hheld
    · exact (admits_iff.mp hadmits y hmem hgate.symm).2 rfl
  · cases hnew : call'.phase.holds with
    | none => rfl
    | some mode =>
      rcases h.holds mode hnew with hheld | hadmits
      · have hnone := hs.locked j index y call hne.symm hother hcall hgate.symm hholds
        rw [hnone] at hheld
        cases hheld
      · have hadmitted := admits_iff.mp hadmits y hmem hgate.symm
        cases mode with
        | shared => exact absurd hholds (hadmitted.1 rfl)
        | exclusive => exact absurd hholds (by rw [hadmitted.2 rfl]; nofun)

lemma Moves.kept_of_holds (hs : Sound p s) (hcall : s.calls[index]? = some call) {j : ℕ}
    (hne : index ≠ j) (hother : s.calls[j]? = some y) (hholds : y.phase.holds ≠ none) :
    Kept p s (s.moved index call' cache') (y.request.gate p) := by
  rcases h.gates with hsame | ⟨hheld, -⟩
  · exact h.kept (.inl hsame)
  · refine h.kept (.inr fun hgate => hholds ?_)
    exact hs.locked index j call y hne hcall hother hgate.symm hheld

end

lemma Sound.moved (hs : Sound p s) (hcall : s.calls[index]? = some call)
    (h : Moves p s call call' cache') (hwell : ∀ kind, (cache'.banks kind).arc.WellFormed)
    (hentries : ∀ kind key e, (cache'.banks kind).arc.value p.hash key = some e →
      (s.cache.banks kind).arc.value p.hash key = some e ∨
        (s.moved index call' cache').EntrySound p kind key e)
    (hph : (s.moved index call' cache').CallSound p call') :
    Sound p (s.moved index call' cache') where
  wellFormed := hwell
  past := by
    intro y hmem
    change y.began < s.now + 1 ∧ ∀ ended, y.ended = some ended → ended < s.now + 1
    rcases mem_set_cases hmem with hold | rfl
    · have hpast := hs.past y hold
      exact ⟨by omega, fun ended hended => by have := hpast.2 ended hended; omega⟩
    · have hpast := hs.past call (mem_of_getElem? hcall)
      refine ⟨by rw [h.began]; omega, fun ended hended => ?_⟩
      rcases h.ended ended hended with hold | ⟨rfl, -⟩
      · have := hpast.2 ended hold
        omega
      · omega
  locked := by
    intro i j first second hne hfirst hsecond hgate hholds
    change (s.calls.set index call')[i]? = _ at hfirst
    change (s.calls.set index call')[j]? = _ at hsecond
    rw [getElem?_set] at hfirst hsecond
    split_ifs at hfirst hsecond with hi _ hj _ hj
    · exact absurd (hi.symm.trans hj) hne
    · obtain rfl := some.inj hfirst
      exact (h.locked hs hcall hj hsecond (h.request ▸ hgate)).1 hholds
    · obtain rfl := some.inj hsecond
      exact (h.locked hs hcall hi hfirst (h.request ▸ hgate.symm)).2 hholds
    · exact hs.locked i j first second hne hfirst hsecond hgate hholds
  entries := by
    intro kind key e hvalue
    rcases hentries kind key e hvalue with hold | hnew
    · exact (hs.entries kind key e hold).later (h.later hcall) h.kept_or_advance
    · exact hnew
  calls := by
    intro y hmem
    obtain ⟨j, hj⟩ := mem_iff_getElem?.mp hmem
    change (s.calls.set index call')[j]? = _ at hj
    rw [getElem?_set] at hj
    split_ifs at hj with hindex hlength
    · obtain rfl := some.inj hj
      exact hph
    · have hold := mem_of_getElem? hj
      exact (hs.calls y hold).later (h.later hcall) (hs.past y hold).1
        h.kept_or_advance (h.kept_of_holds hs hcall hindex hj)
  unloaded := by
    intro y hmem
    rcases mem_set_cases hmem with hold | rfl
    · exact hs.unloaded y hold
    · exact h.unloaded

/-- The gates and what the banks hold are the same; the counters may differ. -/
structure Alike (cache cache' : MetadataCache) : Prop where
  gates : cache'.gates = cache.gates
  arcs : ∀ kind, (cache'.banks kind).arc = (cache.banks kind).arc

lemma Alike.refl (cache : MetadataCache) : Alike cache cache := ⟨rfl, fun _ => rfl⟩

lemma Alike.trans {first second third : MetadataCache} (h : Alike first second)
    (h' : Alike second third) : Alike first third :=
  ⟨h'.gates.trans h.gates, fun kind => (h'.arcs kind).trans (h.arcs kind)⟩

lemma alike_count (cache : MetadataCache) (kind : Kind)
    (increment : MetadataCacheCounters → MetadataCacheCounters) :
    Alike cache (cache.count kind increment) := by
  refine ⟨rfl, fun y => ?_⟩
  by_cases heq : y = kind
  · subst heq
    simp [MetadataCache.count, MetadataCache.setBank]
  · simp [MetadataCache.count, MetadataCache.setBank, heq]

lemma Sound.progress (hs : Sound p s) (hcall : s.calls[index]? = some call)
    (h : Moves p s call call' cache') (hcache : Alike s.cache cache')
    (hph : (s.moved index call' cache').CallSound p call') :
    Sound p (s.moved index call' cache') := by
  refine hs.moved hcall h (fun kind => ?_) (fun kind key e hvalue => .inl ?_) hph
  · rw [hcache.arcs]
    exact hs.wellFormed kind
  · rwa [hcache.arcs] at hvalue

lemma Sound.moves_phase (hs : Sound p s) (hcall : s.calls[index]? = some call)
    {phase : Phase} (hgates : cache'.gates = s.cache.gates)
    (hloads : phase.hasLoaded = false → call.phase.hasLoaded = false)
    (hholds : ∀ mode, phase.holds = some mode → call.phase.holds = some mode ∨
      s.admits p mode (call.request.gate p)) (hadvanced : ∀ out, phase ≠ .advanced out) :
    Moves p s call { call with phase } cache' where
  request := rfl
  began := rfl
  origin _ hloaded := ⟨hloaded, rfl⟩
  unloaded hph := hs.unloaded call (mem_of_getElem? hcall) (hloads hph)
  ended _ := .inl
  holds := hholds
  gates := .inl ⟨hgates, hadvanced⟩

lemma moves_finish {out : Outcome} (hgates : cache'.gates = s.cache.gates)
    (hlast : call.request.read? = none → ∃ out, call.phase = .advanced out) :
    Moves p s call { call with phase := .done out, ended := some s.now } cache' where
  request := rfl
  began := rfl
  origin _ hloaded := ⟨hloaded, rfl⟩
  unloaded := nofun
  ended _ hended := .inr ⟨(some.inj hended).symm, hlast⟩
  holds := nofun
  gates := .inl ⟨hgates, nofun⟩

lemma operate_arc (s : Calls) (kind y : Kind) (op : ArcCache.Operation Bytes Entry) :
    ((s.operate p kind op).cache.banks y).arc =
      if y = kind then (s.cache.banks kind).arc.step p.hash op else (s.cache.banks y).arc := by
  by_cases heq : y = kind
  · subst heq
    simp [operate, setArc, setBank]
  · simp [operate, setArc, setBank, heq]

lemma Sound.operated (hs : Sound p s) (hcall : s.calls[index]? = some call)
    {op : ArcCache.Operation Bytes Entry} (hcache : Alike (s.operate p kind op).cache cache')
    (h : Moves p s call call' cache') (hput : ∀ key e, op = .put key e →
      (s.moved index call' cache').EntrySound p kind key e)
    (hph : (s.moved index call' cache').CallSound p call') :
    Sound p (s.moved index call' cache') := by
  refine hs.moved hcall h (fun y => ?_) (fun y key e hvalue => ?_) hph
  · rw [hcache.arcs, operate_arc]
    split_ifs
    · exact (HashArcCache.step_wellFormed (hs.wellFormed kind) op).1
    · exact hs.wellFormed y
  · rw [hcache.arcs, operate_arc] at hvalue
    split_ifs at hvalue with heq
    · subst heq
      have hafter := HashArcCache.step_value (hs.wellFormed y) op hvalue
      cases op with
      | put target stored =>
        simp only [ArcCache.Operation.after] at hafter
        split_ifs at hafter with hkey
        · obtain rfl := some.inj hafter
          subst hkey
          exact .inr (hput _ _ rfl)
        · exact .inl hafter
      | get target => exact .inl hafter
      | erase target =>
        simp only [ArcCache.Operation.after] at hafter
        split_ifs at hafter
        exact .inl hafter
    · exact .inl hvalue

end Move

end Calls

end Tlss.Ftp
