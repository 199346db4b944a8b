-- The laws of the two manifest slots: a withdrawal is a tombstone, only eligible
-- manifests are given back, and an activation never goes back in time. Each law is
-- an invariant of the history, kept by every move of every call.
import ScreenGoblin.ManagerStages

open js async

namespace screengoblin.player

variable {P : Platform} {steady : Bool} {n m : Nat} {s s' : Device}

/-! ## Runs of the manager -/

theorem sure_boot (P : Platform) (steady : Bool) (slots : Slots) (cache : List String)
    (clock : Int) : (discipline P steady).Sure (System.start (Device.boot slots cache clock)) :=
  Discipline.sure_start fun x hx => by cases hx

/-- The pools that a run from this device can reach. -/
def Reaches (P : Platform) (steady : Bool) (start : Device)
    (pool : Pool Command Device Answer (Option Json)) : Prop :=
  ∃ turns, (manager P steady).run (System.start start) turns = some pool

theorem sure_reaches {slots : Slots} {cache : List String} {clock : Int}
    {pool : Pool Command Device Answer (Option Json)}
    (h : Reaches P steady (Device.boot slots cache clock) pool) :
    (discipline P steady).Sure pool := by
  obtain ⟨turns, h⟩ := h
  exact Discipline.run_holds (manager_sound P steady) (sure_boot P steady slots cache clock) h

/-- An invariant of the device that every move keeps holds in every run. -/
theorem reaches_keeps {J : Device → Prop}
    (hJ : ∀ n now s s', Act P steady n (s.tick now) s' → J s → J s')
    {slots : Slots} {cache : List String} {clock : Int}
    {pool : Pool Command Device Answer (Option Json)} (hj : J (Device.boot slots cache clock))
    (h : Reaches P steady (Device.boot slots cache clock) pool) : J pool.state := by
  obtain ⟨turns, h⟩ := h
  refine Discipline.run_keeps (manager_sound P steady) ?_
    (sure_boot P steady slots cache clock) hj h
  rintro m n s s' _ _ ⟨now, _, hact⟩ hs
  exact hJ m now s s' hact hs

/-! ## A screen in a lobby

One screen with three signed releases, for the cases below: a poster that ends at 09:03, a
newer poster, and a withdrawal. The signatures are real ones under `lobbyKey`. -/

/-- A payload text, the value that it parses to, and its signature. -/
structure SignedText where
  text : String
  payload : Json
  signature : String

def posterText (id : String) : String :=
  "\x7b\"asset\":\x7b\"id\":\"" ++ id ++ "\",\"kind\":\"image\"," ++
    "\"url\":\"https://cms.example/api/v1/media/" ++ id ++ "\"," ++
    "\"mediaDelivery\":\"authorization-v1\"," ++
    "\"mediaCapability\":\"eyJ2IjoxfQ.RehGNbxIA8XMXUVseYoT03p_0YT3awErAcAWdtXORsA\"," ++
    "\"mimeType\":\"image/png\",\"checksumSha256\":" ++
    "\"2d711642b726b04401627ca9fbac32f5c8530fb1903cc4db02258717921a4881\"," ++
    "\"sizeBytes\":70\x7d,\"durationSeconds\":10\x7d"

def poster (id : String) : Json :=
  object [
    ("asset", object [
      ("id", some (.str id)), ("kind", some (.str "image")),
      ("url", some (.str ("https://cms.example/api/v1/media/" ++ id))),
      ("mediaDelivery", some (.str "authorization-v1")),
      ("mediaCapability",
        some (.str "eyJ2IjoxfQ.RehGNbxIA8XMXUVseYoT03p_0YT3awErAcAWdtXORsA")),
      ("mimeType", some (.str "image/png")),
      ("checksumSha256",
        some (.str "2d711642b726b04401627ca9fbac32f5c8530fb1903cc4db02258717921a4881")),
      ("sizeBytes", some (.num 70))]),
    ("durationSeconds", some (.num 10))]

/-- The time of day as the server writes it. -/
def clockText (time : String) : String := "2026-03-01T" ++ time ++ ":00.000Z"

def releaseText (version generatedAt validUntil : String) (ends : Option String)
    (withdrawn : Bool) (items : String) : String :=
  "\x7b\"protocolVersion\":2,\"mediaDelivery\":\"authorization-v1\",\"version\":\"" ++ version ++
    "\",\"generatedAt\":\"" ++ clockText generatedAt ++ "\",\"validUntil\":\"" ++
    clockText validUntil ++
    (match ends with
      | some time => "\",\"playbackEndsAt\":\"" ++ clockText time
      | none => "") ++
    "\",\"screenId\":\"lobby\",\"priority\":\"normal\",\"withdrawn\":" ++
    (if withdrawn then "true" else "false") ++ ",\"items\":[" ++ items ++ "]\x7d"

def release (version generatedAt validUntil : String) (ends : Option String)
    (withdrawn : Bool) (items : List Json) : Json :=
  object [
    ("protocolVersion", some (.num 2)), ("mediaDelivery", some (.str "authorization-v1")),
    ("version", some (.str version)), ("generatedAt", some (.str (clockText generatedAt))),
    ("validUntil", some (.str (clockText validUntil))),
    ("playbackEndsAt", ends.map fun time => .str (clockText time)),
    ("screenId", some (.str "lobby")), ("priority", some (.str "normal")),
    ("withdrawn", some (.bool withdrawn)), ("items", some (.arr items))]

def spring : SignedText where
  text := releaseText "spring" "09:00" "09:05" (some "09:03") false (posterText "poster-1")
  payload := release "spring" "09:00" "09:05" (some "09:03") false [poster "poster-1"]
  signature :=
    "i9W6oturpQAGDK-BzZOuZtR73nPrkAzVYkEMALQoIOsbwzMSKmTi1l_lTwVogLXGsoAH5xoYokRUKN4f75gnDw"

def summer : SignedText where
  text := releaseText "summer" "09:01" "09:06" none false (posterText "poster-2")
  payload := release "summer" "09:01" "09:06" none false [poster "poster-2"]
  signature :=
    "7d6APEdIPW4H-beQoZNShDvrH3GDOEJ70kLcP_IjzHvJCnbNXywHT0FNtOGuWuvOuHyCSDojCj8GVvD7t8F8Dw"

def withdrawal : SignedText where
  text := releaseText "withdrawal" "09:02" "09:07" none true ""
  payload := release "withdrawal" "09:02" "09:07" none true []
  signature :=
    "CbMoOgVaYjLGx1RnIEvLtkFbkioCkObSK3JVNtIsq1MoLs049n_E_bwOa8CTnwIv43JH5lQ_4_fHlpZeLGY3BA"

def lobbyKey : String := "A6EHv_POEL4dcN0Y50vAmWfk1jCbpQ1fHdyGZBJVMbg"

def lobbyTrust : ManifestTrust := { screenId := "lobby", manifestVerificationKey := lobbyKey }

/-- A minute after nine, in milliseconds. -/
def minute (k : Int) : Int := 1772355600000 + k * 60000

/-- The browser on these texts. -/
def lobby : Platform where
  parseJson text := ([spring, summer, withdrawal].find? (·.text == text)).map (·.payload)
  dateParse text := [("09:00", minute 0), ("09:01", minute 1), ("09:02", minute 2),
    ("09:03", minute 3), ("09:05", minute 5), ("09:06", minute 6), ("09:07", minute 7)].findSome?
      fun (time, ms) => if clockText time == text then some ms else none
  coerceText _ := none
  parseUrl text :=
    if ["poster-1", "poster-2"].any (fun id => "https://cms.example/api/v1/media/" ++ id == text)
    then some { protocol := "https:", username := "", password := "", hostname := "cms.example"
                origin := "https://cms.example", search := "", hash := "" }
    else none
  verifySignature text signature key := key == lobbyKey &&
    [spring, summer, withdrawal].any fun s => s.signature == signature && s.text == text
  cacheKey asset :=
    match Value.get (some asset) "id", Value.get (some asset) "checksumSha256" with
    | some (.str id), some (.str checksum) =>
      some ("http://localhost/__sg_asset__/" ++ id ++ "/" ++ checksum)
    | _, _ => none

/-- The name of a poster in the cache. -/
def posterKey (id : String) : String :=
  "http://localhost/__sg_asset__/" ++ id ++
    "/2d711642b726b04401627ca9fbac32f5c8530fb1903cc4db02258717921a4881"

/-- The envelope that `createSignedPlayerManifest` builds from a signed payload. -/
def SignedText.envelopeOn (P : Platform) (s : SignedText) : Json :=
  object [
    ("formatVersion", some (.num 1)), ("payloadJson", some (.str s.text)),
    ("signatureAlgorithm", some (.str "Ed25519")), ("signature", some (.str s.signature)),
    ("manifest", (normalizeSignedPayload P (minute 2) (some s.payload) true).toOption)]

def SignedText.envelope (s : SignedText) : Json := s.envelopeOn lobby

/-- `k` segments of the call at place `n`, each at this minute and each request a success. -/
def segments (n k : Nat) (now : Int) : List (Turn Command Answer) :=
  List.replicate k (.run n { now := minute now })

def stage (s : SignedText) : Turn Command Answer :=
  .call (.stageAndActivate (some s.envelope) lobbyTrust)

/-- An empty device at nine o'clock. -/
def lobbyDevice : Device := Device.boot ⟨none, none⟩ [] (minute 0)

/-- A run that can be evaluated reaches its last pool. -/
theorem reaches_of_run {α : Type} {start : Device} {turns : List (Turn Command Answer)}
    {f : Pool Command Device Answer (Option Json) → α} {a : α}
    (h : ((manager P steady).run (System.start start) turns).map f = some a) :
    ∃ pool, Reaches P steady start pool ∧ f pool = a := by
  obtain ⟨pool, hrun, ha⟩ := Option.map_eq_some_iff.mp h
  exact ⟨pool, ⟨turns, hrun⟩, ha⟩

/-! ## The log of a move -/

/-- A move logs at most one entry. -/
theorem act_log (h : Act P steady n s s') :
    s'.history = s.history ∨ ∃ x, s'.history = x :: s.history := by
  rcases (act_leaves (n := n + 1) (by omega) h).history with hh | ⟨e, hh⟩
  · exact Or.inl hh
  · exact Or.inr ⟨_, hh⟩

/-- An activation in the log is the transaction of the store, with the guards of its move. -/
theorem act_activated {k : Nat} {trust : ManifestTrust} {envelope replaced : Value} {now : Int}
    (h : Act P steady n s s')
    (hx : s'.history = (k, .activated trust envelope replaced now) :: s.history) :
    s'.slots = s.slots.activateManifest envelope ∧ s'.clock = s.clock ∧ s'.cache = s.cache ∧
      (steady = true → playbackEnded P s.clock (view envelope) = false →
        Cached P (view envelope) s) ∧ Undisturbed n s.history := by
  cases h with
  | activates trust' envelope' _ _ _ _ cached undisturbed =>
    simp only [Device.log, List.cons.injEq, Prod.mk.injEq, Event.activated.injEq, and_true] at hx
    obtain ⟨rfl, rfl, rfl, rfl, rfl⟩ := hx
    exact ⟨rfl, rfl, rfl, cached, undisturbed⟩
  | prefetches asset =>
    unfold Device.prefetched at hx
    split at hx
    · exact absurd hx cons_ne_self
    · split at hx
      · simp [Device.log] at hx
      · exact absurd hx cons_ne_self
  | looks | cancels | joinsState | leavesState | joinsStaging | leavesStaging =>
    exact absurd hx cons_ne_self
  | reads | verifies | clears | clearsPrevious | keepsPrevious | promotes | returns | prunes =>
    simp [Device.log, Device.pruned] at hx

/-! ## What the history proves -/

/-- What each entry of the history guarantees, given the entries before it. -/
def Honest (P : Platform) (x : Nat × Event) (older : List (Nat × Event)) : Prop :=
  match x.2 with
  | .activated trust envelope replaced _ =>
    (∃ manifest, Found P x.1 older trust envelope (some manifest)) ∧
      MayReplace P x.1 older trust envelope replaced
  | .promoted trust envelope replaced =>
    (∃ a, Found P x.1 older trust replaced (some a)) ∧
      ∃ p, Found P x.1 older trust envelope (some p) ∧ isWithdrawn (some p) = false
  | .returned trust envelope manifest now =>
    Fit P x.1 older trust envelope manifest now ∧ lastReading x.1 older = some now
  | _ => True

def AllHonest (P : Platform) (history : List (Nat × Event)) : Prop :=
  ∀ newer x older, history = newer ++ x :: older → Honest P x older

theorem honest_cons {x : Nat × Event} {h : List (Nat × Event)} (hx : Honest P x h)
    (hh : AllHonest P h) : AllHonest P (x :: h) := by
  intro newer y older heq
  cases newer with
  | nil =>
    obtain ⟨rfl, rfl⟩ := List.cons.inj heq
    exact hx
  | cons z zs => exact hh zs y older (List.cons.inj heq).2

theorem act_honest (h : Act P steady n s s') (hs : AllHonest P s.history) :
    AllHonest P s'.history := by
  cases h with
  | looks | cancels | joinsState | leavesState | joinsStaging | leavesStaging => exact hs
  | reads | verifies | clears | clearsPrevious | keepsPrevious | prunes =>
    exact honest_cons trivial hs
  | activates trust envelope _ _ verified mayReplace =>
    exact honest_cons ⟨verified, mayReplace⟩ hs
  | promotes trust _ active previous => exact honest_cons ⟨active, previous⟩ hs
  | returns trust manifest now _ fit reading => exact honest_cons ⟨fit, reading⟩ hs
  | prefetches asset =>
    unfold Device.prefetched
    split
    · exact hs
    · split
      · exact honest_cons trivial hs
      · exact hs

theorem reaches_honest {slots : Slots} {cache : List String} {clock : Int}
    {pool : Pool Command Device Answer (Option Json)}
    (h : Reaches P steady (Device.boot slots cache clock) pool) :
    AllHonest P pool.state.history :=
  reaches_keeps (fun _ _ _ _ hact hs => act_honest hact hs)
    (fun newer x older heq => by simp [Device.boot] at heq) h

theorem honest_of_mem {x : Nat × Event} {h : List (Nat × Event)} (hh : AllHonest P h)
    (hx : x ∈ h) : ∃ older, older ⊆ h ∧ Honest P x older := by
  obtain ⟨newer, older, heq⟩ := List.append_of_mem hx
  refine ⟨older, ?_, hh newer x older heq⟩
  rw [heq]
  exact List.subset_append_of_subset_right _ (List.subset_cons_self _ _)

/-! ## Withdrawals -/

/-- The record was staged and activated in this part of the history. -/
def ActivatedIn (history : List (Nat × Event)) (envelope : Value) : Prop :=
  ∃ n trust replaced now, (n, Event.activated trust envelope replaced now) ∈ history

theorem ActivatedIn.cons {x : Nat × Event} {h : List (Nat × Event)} {e : Value}
    (he : ActivatedIn h e) : ActivatedIn (x :: h) e := by
  obtain ⟨n, trust, replaced, now, hmem⟩ := he
  exact ⟨n, trust, replaced, now, List.mem_cons_of_mem _ hmem⟩

/-- What a recovery or a rollback brings back. -/
def Event.revived : Event → Option Value
  | .returned _ envelope _ _ | .promoted _ envelope _ => some envelope
  | _ => none

/-- The slots and the history `newer` since the withdrawal `w` was activated. -/
structure Buried (w : Value) (newer : List (Nat × Event)) (slots : Slots) : Prop where
  active : slots.active = w ∨ slots.active = none ∨ ActivatedIn newer slots.active
  previous : slots.previous = none ∨ ActivatedIn newer slots.previous
  revived : ∀ later x mid, newer = later ++ x :: mid → ∀ e, x.2.revived = some e →
    ActivatedIn mid e

variable {w : Value} {newer : List (Nat × Event)}

/-- A new entry that brings nothing back, with the slots as they are or emptier. -/
theorem Buried.log {x : Nat × Event} {slots slots' : Slots} (h : Buried w newer slots)
    (hx : ∀ e, x.2.revived = some e → ActivatedIn newer e)
    (ha : slots'.active = w ∨ slots'.active = none ∨ ActivatedIn (x :: newer) slots'.active)
    (hp : slots'.previous = none ∨ ActivatedIn (x :: newer) slots'.previous) :
    Buried w (x :: newer) slots' where
  active := ha
  previous := hp
  revived later y mid heq e he := by
    cases later with
    | nil =>
      obtain ⟨rfl, rfl⟩ := List.cons.inj heq
      exact hx e he
    | cons z zs => exact h.revived zs y mid (List.cons.inj heq).2 e he

theorem Buried.quiet {x : Nat × Event} {slots : Slots} (h : Buried w newer slots)
    (hx : x.2.revived = none) : Buried w (x :: newer) slots :=
  h.log (fun e he => by rw [hx] at he; cases he) (h.active.imp_right (Or.imp_right .cons))
    (h.previous.imp_right .cons)

/-- The step lemma of the tombstone: every move leaves the withdrawal buried. -/
theorem act_buried (hw : isWithdrawn (view w) = true) (h : Act P steady n s s')
    (hb : Buried w newer s.slots) : (s'.history = s.history ∧ Buried w newer s'.slots) ∨
      ∃ x, s'.history = x :: s.history ∧ Buried w (x :: newer) s'.slots := by
  cases h with
  | looks | cancels | joinsState | leavesState | joinsStaging | leavesStaging =>
    exact Or.inl ⟨rfl, hb⟩
  | reads | verifies | keepsPrevious | prunes => exact Or.inr ⟨_, rfl, hb.quiet rfl⟩
  | clears => exact Or.inr ⟨_, rfl, hb.log (fun e he => by cases he) (Or.inr (Or.inl rfl))
      (Or.inl rfl)⟩
  | clearsPrevious => exact Or.inr ⟨_, rfl, hb.log (fun e he => by cases he)
      (hb.active.imp_right (Or.imp_right .cons)) (Or.inl rfl)⟩
  | prefetches asset =>
    unfold Device.prefetched
    split
    · exact Or.inl ⟨rfl, hb⟩
    · split
      · exact Or.inr ⟨_, rfl, hb.quiet rfl⟩
      · exact Or.inl ⟨rfl, hb⟩
  | activates trust envelope =>
    refine Or.inr ⟨_, rfl, hb.log (fun e he => by cases he) (Or.inr (Or.inr ?_)) ?_⟩
    · exact ⟨n, trust, _, _, List.mem_cons_self⟩
    · show (s.slots.activateManifest envelope).previous = none ∨
        ActivatedIn _ (s.slots.activateManifest envelope).previous
      rcases activate_previous s.slots envelope with hp | hp | ⟨hp, htruthy, _, hnot⟩
      · exact Or.inl hp
      · rw [hp]; exact hb.previous.imp_right .cons
      · -- the old active release moves down, and it is neither the withdrawal nor missing
        rw [hp]
        rcases hb.active with ha | ha | ha
        · rw [ha, hw] at hnot; cases hnot
        · rw [ha] at htruthy; cases htruthy
        · exact Or.inr ha.cons
  | promotes trust _ _ previous =>
    obtain ⟨p, ⟨_, _, hv⟩, _⟩ := previous
    have hprev : ActivatedIn newer s.slots.previous := by
      rcases hb.previous with hp | hp
      · rw [hp] at hv; cases hv
      · exact hp
    refine Or.inr ⟨_, rfl, hb.log (fun e he => ?_) (Or.inr (Or.inr hprev.cons))
      (Or.inr hprev.cons)⟩
    obtain rfl := Option.some.inj he
    exact hprev
  | returns trust manifest now _ fit =>
    refine Or.inr ⟨_, rfl, hb.log (fun e he => ?_) (hb.active.imp_right (Or.imp_right .cons))
      (hb.previous.imp_right .cons)⟩
    obtain rfl := Option.some.inj he
    obtain ⟨_, _, hv⟩ := fit.found
    rcases hb.active with ha | ha | ha
    · rw [← ha, (verify_sound hv).view, fit.notWithdrawn] at hw; cases hw
    · rw [ha] at hv; cases hv
    · exact ha

/-- Whatever was in the slots when a withdrawal was activated stays buried. -/
def Tombstones (s : Device) : Prop :=
  ∀ newer older n trust w replaced now,
    s.history = newer ++ (n, Event.activated trust w replaced now) :: older →
    isWithdrawn (view w) = true → Buried w newer s.slots

theorem act_tombstones (h : Act P steady n s s') (hs : Tombstones s) : Tombstones s' := by
  intro newer older k trust w replaced now heq hw
  rcases act_log h with hsame | ⟨x, hx⟩
  · rw [hsame] at heq
    rcases act_buried hw h (hs _ _ _ _ _ _ _ heq hw) with ⟨_, hb⟩ | ⟨y, hh, _⟩
    · exact hb
    · rw [hsame] at hh; exact absurd hh cons_ne_self
  · rw [hx] at heq
    cases newer with
    | cons z zs =>
      obtain ⟨rfl, hrest⟩ := List.cons.inj heq
      rcases act_buried hw h (hs _ _ _ _ _ _ _ hrest hw) with ⟨hh, _⟩ | ⟨y, hh, hb⟩
      · rw [hx] at hh; exact absurd hh.symm cons_ne_self
      · rw [hx] at hh
        exact (List.cons.inj hh).1 ▸ hb
    | nil =>
      -- this move is the withdrawal itself
      obtain ⟨rfl, rfl⟩ := List.cons.inj heq
      have hslots := (act_activated h hx).1
      rw [hslots, activate_withdrawn hw]
      exact ⟨Or.inl rfl, Or.inl rfl, fun later y mid heq => by simp at heq⟩

/-- No transaction puts an emergency or a withdrawal into the previous slot. -/
theorem act_ordinary (h : Act P steady n s s')
    (hs : isEmergency (view s.slots.previous) = false ∧
      isWithdrawn (view s.slots.previous) = false) :
    isEmergency (view s'.slots.previous) = false ∧
      isWithdrawn (view s'.slots.previous) = false := by
  cases h with
  | clears | clearsPrevious => exact ⟨rfl, rfl⟩
  | activates trust envelope =>
    show isEmergency (view (s.slots.activateManifest envelope).previous) = false ∧
      isWithdrawn (view (s.slots.activateManifest envelope).previous) = false
    rcases activate_previous s.slots envelope with hp | hp | ⟨hp, _, he, hw⟩
    · rw [hp]; exact ⟨rfl, rfl⟩
    · rw [hp]; exact hs
    · rw [hp]; exact ⟨he, hw⟩
  | prefetches asset =>
    unfold Device.prefetched
    split
    · exact hs
    · split
      · exact hs
      · exact hs
  | _ => exact hs

/-- The tombstone law. From an empty store, the previous slot never holds an emergency or a
withdrawal, neither in its stored view nor under any key. And after a withdrawal was
activated, a recovery or a rollback brings back only what was activated again since then. -/
theorem a_withdrawal_is_a_tombstone {cache : List String} {clock : Int}
    {pool : Pool Command Device Answer (Option Json)}
    (hrun : Reaches P steady (Device.boot ⟨none, none⟩ cache clock) pool) :
    (isEmergency (view pool.state.slots.previous) = false ∧
      isWithdrawn (view pool.state.slots.previous) = false ∧
      ∀ now trust manifest,
        verifySignedPlayerManifest P now pool.state.slots.previous trust = some manifest →
        isEmergency (some manifest) = false ∧ isWithdrawn (some manifest) = false) ∧
    ∀ later x mid older n trust w replaced now,
      pool.state.history = later ++ x :: mid ++ (n, Event.activated trust w replaced now) :: older →
      isWithdrawn (view w) = true → ∀ e, x.2.revived = some e → ActivatedIn mid e := by
  have hord := reaches_keeps (J := fun s => isEmergency (view s.slots.previous) = false ∧
    isWithdrawn (view s.slots.previous) = false)
    (fun _ _ s _ hact hs => act_ordinary hact hs) ⟨rfl, rfl⟩ hrun
  have htomb := reaches_keeps (J := Tombstones) (fun _ _ s _ hact hs => act_tombstones hact hs)
    (fun newer older n trust w replaced now heq => by simp [Device.boot] at heq) hrun
  refine ⟨⟨hord.1, hord.2, fun now trust manifest hv => ?_⟩, ?_⟩
  · rw [← (verify_sound hv).view]
    exact hord
  · intro later x mid older n trust w replaced now heq hw e he
    have hburied := htomb (later ++ x :: mid) older n trust w replaced now heq hw
    exact hburied.revived later x mid rfl e he

/-! ## After a removal

The lobby under another key: a withdrawal and then two posters. -/

def removal : SignedText where
  text := releaseText "removal" "09:00" "09:05" none true ""
  payload := release "removal" "09:00" "09:05" none true []
  signature :=
    "S5XFsJ72s03bDq9j_0zRmpBoOQdAVbjr065bdaROsct3UFSufyTAF3LCVnOp-fSuHjeAWXD4kIZQ7Kiua11jDg"

def autumn : SignedText where
  text := releaseText "autumn" "09:01" "09:06" none false (posterText "poster-1")
  payload := release "autumn" "09:01" "09:06" none false [poster "poster-1"]
  signature :=
    "R212fSXFqSNcxAPTsziLLywnJ7bsDWDorhkNusuRSAKwpZh5gSoXEDXiOz2jUXLvrV8ZS1gecWz_q4ZlonOqAg"

def winter : SignedText where
  text := releaseText "winter" "09:02" "09:07" none false (posterText "poster-2")
  payload := release "winter" "09:02" "09:07" none false [poster "poster-2"]
  signature :=
    "0LrEWtYJRgfrMOx-CPLovviAMkQCZzv2HFkAVg8Jp9fiRIRHBqumiIOJdIgjAw88xBFbIwaXEBlEtWWq3ccNBQ"

def reopenedKey : String := "-5MdZxtRdW8RVsQg6WZlIFuHgtPI0vf-qNDzuxT9CYQ"

def reopenedTrust : ManifestTrust :=
  { screenId := "lobby", manifestVerificationKey := reopenedKey }

/-- The browser of the lobby on these three texts. -/
def reopened : Platform where
  parseJson text := ([removal, autumn, winter].find? (·.text == text)).map (·.payload)
  dateParse := lobby.dateParse
  coerceText := lobby.coerceText
  parseUrl := lobby.parseUrl
  verifySignature text signature key := key == reopenedKey &&
    [removal, autumn, winter].any fun s => s.signature == signature && s.text == text
  cacheKey := lobby.cacheKey

def stageReopened (s : SignedText) : Turn Command Answer :=
  .call (.stageAndActivate (some (s.envelopeOn reopened)) reopenedTrust)

set_option maxRecDepth 10000 in
/-- The removal, the two posters, and a rollback of the newer one. It promotes the autumn
poster, which was activated after the removal. -/
theorem a_withdrawal_is_a_tombstone_in_the_lobby :
    ∃ pool later mid older, Reaches reopened false lobbyDevice pool ∧
      pool.state.slots.previous = some (autumn.envelopeOn reopened) ∧
      isWithdrawn (view pool.state.slots.previous) = false ∧
      pool.state.history = later ++ (3, Event.promoted reopenedTrust
          (some (autumn.envelopeOn reopened)) (some (winter.envelopeOn reopened))) :: mid ++
        (0, Event.activated reopenedTrust (some (removal.envelopeOn reopened)) none
          (minute 1)) :: older ∧
      ActivatedIn mid (some (autumn.envelopeOn reopened)) := by
  obtain ⟨pool, hrun, h⟩ := reaches_of_run (P := reopened)
    (f := fun p => (p.state.slots.previous, p.state.history[3]?, (p.state.history.drop 4).contains
      (0, Event.activated reopenedTrust (some (removal.envelopeOn reopened)) none (minute 1)),
      isWithdrawn (view (some (removal.envelopeOn reopened)))))
    (show ((manager reopened false).run (System.start lobbyDevice)
      (stageReopened removal :: segments 0 34 1 ++ stageReopened autumn :: segments 1 37 1 ++
        stageReopened winter :: segments 2 37 2 ++
        .call (.rollback reopenedTrust (some "winter")) :: segments 3 13 2)).map _ =
      some (some (autumn.envelopeOn reopened), some (3, Event.promoted reopenedTrust
        (some (autumn.envelopeOn reopened)) (some (winter.envelopeOn reopened))), true, true)
      by decide +kernel)
  simp only [Prod.mk.injEq] at h
  obtain ⟨hprevious, hpromoted, hremoved, hwithdrawn⟩ := h
  obtain ⟨hlt, hget⟩ := List.getElem?_eq_some_iff.mp hpromoted
  obtain ⟨mid, older, hrest⟩ := List.append_of_mem (List.contains_iff_mem.mp hremoved)
  have hhistory := List.take_append_drop 3 pool.state.history
  rw [List.drop_eq_getElem_cons hlt, hget, hrest, ← List.cons_append, ← List.append_assoc]
    at hhistory
  have hlaw := a_withdrawal_is_a_tombstone hrun
  exact ⟨pool, _, mid, older, hrun, hprevious, hlaw.1.2.1, hhistory.symm,
    hlaw.2 _ _ mid older _ _ _ _ _ hhistory.symm hwithdrawn _ rfl⟩

/-! ## What is given back -/

/-- Only an eligible manifest is ever given back, for any records in the slots. The manifest
that a call resolves with is in the history. Each one there was verified before by the call
itself, over exactly its stored payload text, is no withdrawal, and has not ended at the last
time that the call read off the clock before it gave the manifest back. And a call promotes
the previous slot only over an active release that it has found to verify. -/
theorem only_eligible_manifests_are_given_back {slots : Slots} {cache : List String} {clock : Int}
    {pool : Pool Command Device Answer (Option Json)}
    (hrun : Reaches P steady (Device.boot slots cache clock) pool) :
    (∀ n c manifest, pool.tasks[n]? = some (c, .settled (.ok (some manifest))) →
      ∃ trust envelope now, c.trusted = some trust ∧
        (n, Event.returned trust envelope manifest now) ∈ pool.state.history) ∧
    (∀ newer older n trust envelope manifest now,
      pool.state.history = newer ++ (n, Event.returned trust envelope manifest now) :: older →
      (∃ t, (n, Event.verified trust envelope t) ∈ older ∧
        Verified P t envelope trust manifest) ∧
      isWithdrawn (some manifest) = false ∧ lastReading n older = some now ∧
      (∀ boundary, manifestPlaybackEndsAt P (some manifest) = some boundary → now < boundary) ∧
      (isEmergency (some manifest) = true →
        ∃ t, P.date (Value.get (some manifest) "validUntil") = some t ∧ now < t)) ∧
    (∀ newer older n trust envelope replaced,
      pool.state.history = newer ++ (n, Event.promoted trust envelope replaced) :: older →
      ∃ active, Found P n older trust replaced (some active)) := by
  have hhonest := reaches_honest hrun
  refine ⟨fun n c manifest hn => ?_, ?_, fun newer older n trust envelope replaced heq =>
    (hhonest newer _ older heq).1⟩
  · have hok : Resolved n c (some manifest) pool.state := (sure_reaches hrun).ok hn
    unfold Resolved at hok
    cases hc : c.trusted with
    | none => rw [hc] at hok; cases hok
    | some trust =>
      rw [hc] at hok
      obtain ⟨envelope, now, hmem⟩ := hok manifest rfl
      exact ⟨trust, envelope, now, rfl, hmem⟩
  · intro newer older n trust envelope manifest now heq
    obtain ⟨⟨⟨t, hmem, hv⟩, hw, hend⟩, hread⟩ := hhonest newer _ older heq
    have hverified := verify_sound hv
    simp only [hasEnded, playbackEnded, leaseEnded, Bool.or_eq_false_iff,
      Bool.and_eq_false_iff] at hend
    refine ⟨⟨t, hmem, hverified⟩, hw, hread, fun boundary hb => ?_, fun he => ?_⟩
    · have hlate := hend.1
      rw [hb] at hlate
      simp only [dateLe, decide_eq_false_iff_not] at hlate
      omega
    · obtain ⟨u, hu⟩ := hverified.sane.validUntil
      rcases hend.2 with h | h
      · rw [he] at h; cases h
      · rw [hu] at h
        simp only [dateLe, decide_eq_false_iff_not] at h
        exact ⟨u, hu, by omega⟩

set_option maxRecDepth 10000 in
/-- The poster of the spring is given back at 09:01, and it ends at 09:03. -/
theorem only_eligible_manifests_are_given_back_in_the_lobby :
    ∃ pool manifest, Reaches lobby false lobbyDevice pool ∧
      (0, Event.returned lobbyTrust (some spring.envelope) manifest (minute 1)) ∈
        pool.state.history ∧
      ∃ t, (0, Event.verified lobbyTrust (some spring.envelope) t) ∈ pool.state.history ∧
        Verified lobby t (some spring.envelope) lobbyTrust manifest := by
  obtain ⟨pool, hrun, hx⟩ := reaches_of_run (P := lobby)
    (f := fun p => p.state.history.contains (0, Event.returned lobbyTrust (some spring.envelope)
      ((view (some spring.envelope)).getD .null) (minute 1)))
    (show ((manager lobby false).run (System.start lobbyDevice)
      (stage spring :: segments 0 37 1)).map _ = some true by decide +kernel)
  have hmem := List.contains_iff_mem.mp hx
  obtain ⟨newer, older, heq⟩ := List.append_of_mem hmem
  obtain ⟨t, hfound, hverified⟩ :=
    ((only_eligible_manifests_are_given_back hrun).2.1 newer older _ _ _ _ _ heq).1
  refine ⟨pool, _, hrun, hmem, t, ?_, hverified⟩
  rw [heq]
  exact List.mem_append_right _ (List.mem_cons_of_mem _ hfound)

/-! ## What an activation replaces -/

/-- Two values that `===` finds equal are equal. -/
theorem strictEq_eq {a b : Value} (h : Value.strictEq a b = true) : a = b := by
  unfold Value.strictEq at h
  split at h
  · cases h
  · cases h
  · exact eq_of_beq h

/-- The order that `assertNotOlderThanActive` checks. -/
theorem not_older_not_ambiguous {candidate active : Json} {ct at' : Int}
    (hc : P.date (Value.get (some candidate) "generatedAt") = some ct)
    (ha : P.date (Value.get (some active) "generatedAt") = some at')
    (ho : isOlder P (some candidate) (some active) = false)
    (hamb : isAmbiguous P (some candidate) (some active) = false) :
    at' ≤ ct ∧ (ct = at' → (Value.get (some candidate) "requestChallengeId" ≠ none ∨
      Value.get (some active) "requestChallengeId" ≠ none) →
      Value.get (some candidate) "version" = Value.get (some active) "version") := by
  simp only [isOlder, hc, ha, dateLt, decide_eq_false_iff_not] at ho
  refine ⟨by omega, fun heq hch => ?_⟩
  subst heq
  have hne : (Value.get (some candidate) "requestChallengeId" != none ||
      Value.get (some active) "requestChallengeId" != none) = true := by
    simpa [bne_iff_ne] using hch
  simp only [isAmbiguous, hc, ha, Option.isSome_some, beq_self_eq_true, Bool.true_and, hne,
    Bool.and_true, Bool.not_eq_false'] at hamb
  exact strictEq_eq hamb

/-- A move that changes a slot says so in the history, and a clearing names what it cleared. -/
theorem act_slots (h : Act P steady n s s') : s'.slots = s.slots ∨
    ∃ e, s'.history = (n, e) :: s.history ∧ e.changesSlots = true ∧
      ∀ replaced, e = .cleared replaced → replaced = s.slots.active ∧ s'.slots = ⟨none, none⟩ := by
  cases h with
  | activates | clearsPrevious | promotes =>
    exact Or.inr ⟨_, rfl, rfl, fun replaced h => by cases h⟩
  | clears => exact Or.inr ⟨_, rfl, rfl, fun replaced h => ⟨(Event.cleared.inj h).symm, rfl⟩⟩
  | prefetches asset =>
    unfold Device.prefetched
    split
    · exact Or.inl rfl
    · split <;> exact Or.inl rfl
  | _ => exact Or.inl rfl

theorem act_suffix (h : Act P steady n s s') : s.history <:+ s'.history := by
  rcases act_log h with hh | ⟨y, hh⟩
  · exact ⟨[], hh.symm⟩
  · exact ⟨[y], hh.symm⟩

/-- The order of activations, for any records in the slots. An activation replaces an active
release that verifies only with one that was generated no earlier, and of the same version
if the two were generated at one time and one of them answers a challenge. And a stage that
rejects has changed no slot, except that it may have cleared both over the active record that
it verified last, when that record did not verify at its own reading of the clock. -/
theorem an_activation_never_goes_back {slots : Slots} {cache : List String} {clock : Int}
    {before after : List (Turn Command Answer)} {n : Nat} {i : Answer}
    {pool₁ pool₂ pool : Pool Command Device Answer (Option Json)}
    (hbefore : (manager P steady).run (System.start (Device.boot slots cache clock)) before =
      some pool₁)
    (hturn : (manager P steady).turn pool₁ (.run n i) = some pool₂)
    (hafter : (manager P steady).run pool₂ after = some pool) :
    (∀ k trust envelope replaced now,
      (k, Event.activated trust envelope replaced now) ∈ pool.state.history →
      ∀ t active, verifySignedPlayerManifest P t replaced trust = some active →
      ∃ candidate candidateAt activeAt,
        Found P k pool.state.history trust envelope (some candidate) ∧
        P.date (Value.get (some candidate) "generatedAt") = some candidateAt ∧
        P.date (Value.get (some active) "generatedAt") = some activeAt ∧
        activeAt ≤ candidateAt ∧
        (candidateAt = activeAt → (Value.get (some candidate) "requestChallengeId" ≠ none ∨
          Value.get (some active) "requestChallengeId" ≠ none) →
          Value.get (some candidate) "version" = Value.get (some active) "version")) ∧
    (∀ envelope trust message,
      pool.tasks[n]? = some (.stageAndActivate envelope trust, .settled (.error message)) →
      pool₂.state.slots = pool₁.state.slots ∨
        (pool₂.state.slots = ⟨none, none⟩ ∧ pool₁.state.slots.active.truthy = true ∧
          ∃ t, lastVerification n pool₁.state.history =
              some (trust, pool₁.state.slots.active, t) ∧
            verifySignedPlayerManifest P t pool₁.state.slots.active trust = none)) := by
  have hsure := manager_sound P steady
  have h₁ := Discipline.run_holds hsure (sure_boot P steady slots cache clock) hbefore
  have h₂ := Discipline.sure_turn hsure h₁ hturn
  have h₃ := Discipline.run_holds hsure h₂ hafter
  have hkeeps : ∀ {J : Device → Prop}, (∀ n now s s', Act P steady n (s.tick now) s' → J s → J s') →
      J pool₂.state → J pool.state := fun hJ hj => by
    refine Discipline.run_keeps hsure ?_ h₂ hj hafter
    rintro m k s s' _ _ ⟨now, _, hact⟩ hs
    exact hJ m now s s' hact hs
  obtain ⟨now, _, hact⟩ : Moves P steady n pool₁.state pool₂.state :=
    Discipline.turn_guar h₁ hturn
  refine ⟨fun k trust envelope replaced t₀ hx t active hv => ?_,
    fun envelope trust message hrej => ?_⟩
  · have hhonest : AllHonest P pool.state.history :=
      hkeeps (fun _ _ _ _ h hs => act_honest h hs)
        (act_honest hact (reaches_honest ⟨before, hbefore⟩))
    obtain ⟨_, holder, ⟨candidate, hfound⟩, hmay⟩ := honest_of_mem hhonest hx
    obtain ⟨t', _, hcandidate⟩ := id hfound
    rcases hmay with hfalsy | ⟨active', ⟨u, _, hv'⟩, ho, hamb⟩
    · rw [verify_truthy hv] at hfalsy; cases hfalsy
    · obtain rfl : active' = active := Option.some.inj
        ((verify_sound hv').view.symm.trans (verify_sound hv).view)
      rw [(verify_sound hcandidate).view] at ho hamb
      obtain ⟨ct, hct⟩ := (verify_sound hcandidate).sane.generatedAt
      obtain ⟨at', hat⟩ := (verify_sound hv).sane.generatedAt
      obtain ⟨h1, h2⟩ := not_older_not_ambiguous hct hat ho hamb
      exact ⟨candidate, ct, at', hfound.mono holder, hct, hat, h1, h2⟩
  · rcases act_slots hact with hsame | ⟨e, hlog, hchanges, hcleared⟩
    · exact Or.inl hsame
    · obtain ⟨newer, hnewer⟩ : pool₂.state.history <:+ pool.state.history :=
        hkeeps (J := fun s => pool₂.state.history <:+ s.history)
          (fun _ _ _ _ h hs => by
            have hgrown := act_suffix h
            exact hs.trans hgrown) (List.suffix_refl _)
      have hclean : Clean P n trust pool.state := h₃.err hrej
      obtain ⟨replaced, t, rfl, htruthy, hlast, hnone⟩ :=
        hclean newer e pool₁.state.history (by rw [← hnewer, hlog]; rfl) hchanges
      obtain ⟨rfl, hslots⟩ := hcleared replaced rfl
      exact Or.inr ⟨hslots, htruthy, t, hlast, hnone⟩

/-- The command at place `n` and what it rejected with. -/
def rejection (pool : Pool Command Device Answer (Option Json)) (n : Nat) :
    Option (Command × String) :=
  match pool.tasks[n]? with
  | some (c, .settled (.error message)) => some (c, message)
  | _ => none

theorem rejection_eq {pool : Pool Command Device Answer (Option Json)} {c : Command}
    {message : String} (h : rejection pool n = some (c, message)) :
    pool.tasks[n]? = some (c, .settled (.error message)) := by
  unfold rejection at h
  split at h
  · rename_i c' message' htask
    obtain ⟨rfl, rfl⟩ := Prod.mk.inj (Option.some.inj h)
    exact htask
  · cases h

/-- A record that does not verify. -/
def unsigned : Json := object [("formatVersion", some (.num 1))]

set_option maxRecDepth 10000 in
/-- The newer poster takes the place of the older one. And a stage that finds a record without
a signature clears it, and then it is cancelled. -/
theorem an_activation_never_goes_back_in_the_lobby :
    (∃ pool₁ pool₂ pool, (manager lobby false).run (System.start lobbyDevice)
        (stage spring :: segments 0 37 1 ++ stage summer :: segments 1 20 1) = some pool₁ ∧
      (manager lobby false).turn pool₁ (.run 1 { now := minute 1 }) = some pool₂ ∧
      (manager lobby false).run pool₂ (segments 1 16 1) = some pool ∧
      ∀ k trust replaced now, (k, Event.activated trust (some summer.envelope) replaced now) ∈
          pool.state.history →
        ∀ t active, verifySignedPlayerManifest lobby t replaced trust = some active →
        ∃ candidate, Found lobby k pool.state.history trust (some summer.envelope)
          (some candidate)) ∧
    ∃ pool₁ pool₂ pool, (manager lobby false).run
        (System.start (Device.boot ⟨some unsigned, none⟩ [] (minute 0)))
        (stage spring :: segments 0 28 1) = some pool₁ ∧
      (manager lobby false).turn pool₁ (.run 0 { now := minute 1 }) = some pool₂ ∧
      (manager lobby false).run pool₂
        (.call .cancelPendingStages :: segments 1 1 1 ++ segments 0 3 1) = some pool ∧
      pool₂.state.slots ≠ pool₁.state.slots ∧
      ∃ t, lastVerification 0 pool₁.state.history =
          some (lobbyTrust, pool₁.state.slots.active, t) ∧
        verifySignedPlayerManifest lobby t pool₁.state.slots.active lobbyTrust = none := by
  constructor
  · have h : ((manager lobby false).run (System.start lobbyDevice)
        (stage spring :: segments 0 37 1 ++ stage summer :: segments 1 20 1) >>= fun p =>
        (manager lobby false).turn p (.run 1 { now := minute 1 }) >>= fun q =>
        (manager lobby false).run q (segments 1 16 1)).isSome = true := by decide +kernel
    obtain ⟨pool, h⟩ := Option.isSome_iff_exists.mp h
    obtain ⟨pool₁, h₁, h⟩ := Option.bind_eq_some_iff.mp h
    obtain ⟨pool₂, h₂, h₃⟩ := Option.bind_eq_some_iff.mp h
    refine ⟨pool₁, pool₂, pool, h₁, h₂, h₃, fun k trust replaced now hx t active hv => ?_⟩
    obtain ⟨candidate, _, _, hfound, _⟩ :=
      (an_activation_never_goes_back h₁ h₂ h₃).1 k trust _ replaced now hx t active hv
    exact ⟨candidate, hfound⟩
  · have h : ((manager lobby false).run
        (System.start (Device.boot ⟨some unsigned, none⟩ [] (minute 0)))
        (stage spring :: segments 0 28 1) >>= fun p =>
        (manager lobby false).turn p (.run 0 { now := minute 1 }) >>= fun q =>
        ((manager lobby false).run q
          (.call .cancelPendingStages :: segments 1 1 1 ++ segments 0 3 1)).map fun r =>
          (decide (q.state.slots = p.state.slots), rejection r 0)) =
        some (false, some (.stageAndActivate (some spring.envelope) lobbyTrust, cancelled)) := by
      decide +kernel
    obtain ⟨pool₁, h₁, h⟩ := Option.bind_eq_some_iff.mp h
    obtain ⟨pool₂, h₂, h⟩ := Option.bind_eq_some_iff.mp h
    obtain ⟨pool, h₃, h⟩ := Option.map_eq_some_iff.mp h
    obtain ⟨hslots, hrejected⟩ := Prod.mk.inj h
    have hne := of_decide_eq_false hslots
    refine ⟨pool₁, pool₂, pool, h₁, h₂, h₃, hne, ?_⟩
    rcases (an_activation_never_goes_back h₁ h₂ h₃).2 _ lobbyTrust _ (rejection_eq hrejected) with
      hsame | ⟨_, _, ht⟩
    · exact absurd hsame hne
    · exact ht

end screengoblin.player
