import VerityVerifier.Retrieval.Coherence
import VerityVerifier.Retrieval.Http
import VerityVerifier.Retrieval.Nesting

/-!
# What a cache of capped sources can grow to

The sources of this crate read no more of a response than their limit. A cache in front of a
chain of them holds no more than its capacity times that, whatever its servers answer and
however the calls interleave.
-/
namespace VerityVerifier.Retrieval

open VerityVerifier.Library
open VerityVerifier.Library.Attempts
open VerityVerifier.Library.ByteString
open VerityVerifier.Library.Reader
open VerityVerifier.Library.Runs

variable {σ : Type}

/-! ## A chain of capped sources -/

/-- A source behind the HTTP client. -/
inductive Capped where
  | gateway (self : Gateway)
  | kuboRpc (self : KuboRpc)
  | httpUrl (self : HttpUrl)

namespace Capped

def limit : Capped → Nat
  | .gateway self => self.limit
  | .kuboRpc self => self.limit
  | .httpUrl self => self.limit

def fetch {m : Type → Type} [Monad m] (agent : Agent m) (buffers : Buffers) : Capped → Source m
  | .gateway self => self.fetch agent buffers
  | .kuboRpc self => self.fetch agent buffers
  | .httpUrl self => self.fetch agent buffers

end Capped

/-- A chain of them, over one client. -/
def cappedChain {m : Type → Type} [Monad m] (agent : Agent m) (buffers : Buffers) (first : Capped)
    (rest : List Capped) : Fallback m :=
  ⟨first.fetch agent buffers, rest.map fun source => source.fetch agent buffers⟩

theorem fromResponse_length {buffers : Buffers} {url : String} {limit : Nat}
    {response : Except AgentError (Body String)} {bytes : Bytes}
    (h : fromResponse buffers url limit response = .ok bytes) : bytes.length ≤ limit := by
  cases response with
  | error e =>
    cases e with
    | statusCode code => cases h
    | other detail => cases h
  | ok body =>
    have hread : (readCapped buffers body url limit).1 = .ok bytes := h
    exact readUpTo_length hread

/-- A request answers with no more bytes than its limit, whatever the server sends. -/
theorem request_length {ask : StateM σ (Except AgentError (Body String))} {buffers : Buffers}
    {url : String} {limit : Nat} {net net' : σ} {bytes : Bytes}
    (h : (do return fromResponse buffers url limit (← ask) :
      StateM σ (Except FetchError Bytes)).run net = (.ok bytes, net')) : bytes.length ≤ limit := by
  have hb : fromResponse buffers url limit (ask.run net).1 = .ok bytes := congrArg Prod.fst h
  exact fromResponse_length hb

theorem Capped.fetch_length {agent : Agent (StateM σ)} {buffers : Buffers} {source : Capped}
    {uri : ComposeUri} {net net' : σ} {bytes : Bytes}
    (h : (source.fetch agent buffers uri).run net = (.ok bytes, net')) :
    bytes.length ≤ source.limit := by
  cases source with
  | gateway self =>
    cases uri with
    | ipfs cid => exact request_length h
    | http url => cases h
  | kuboRpc self =>
    cases uri with
    | ipfs cid => exact request_length h
    | http url => cases h
  | httpUrl self =>
    cases uri with
    | ipfs cid => cases h
    | http url => exact request_length h

theorem cappedChain_length {agent : Agent (StateM σ)} {buffers : Buffers} {first : Capped}
    {rest : List Capped} {limit : Nat}
    (hlimit : ∀ source ∈ first :: rest, source.limit ≤ limit) {uri : ComposeUri} {net net' : σ}
    {bytes : Bytes}
    (h : ((cappedChain agent buffers first rest).fetch uri).run net = (.ok bytes, net')) :
    bytes.length ≤ limit := by
  rw [cappedChain, Fallback.fetch_eq _ _ uri (.transport "" "")] at h
  obtain ⟨attempt, hm, net₁, ha⟩ := firstOk_ok_mem h
  have hsource : ∃ source ∈ first :: rest, attempt = source.fetch agent buffers uri := by
    rcases List.mem_cons.mp hm with rfl | hm
    · exact ⟨first, List.mem_cons_self, rfl⟩
    · obtain ⟨_, hf, rfl⟩ := List.mem_map.mp hm
      obtain ⟨source, hs, rfl⟩ := List.mem_map.mp hf
      exact ⟨source, List.mem_cons_of_mem first hs, rfl⟩
  obtain ⟨source, hs, rfl⟩ := hsource
  have hle := hlimit source hs
  exact Nat.le_trans (source.fetch_length ha) hle

/-! ## The cache in front of it -/

/-- How many bytes of documents are held. -/
def Cached.held (self : Cached) : Nat := Bounded.weight List.length self.entries.value

/-- A call is answered with what the source answers in some state of the network. -/
def AnsweredBy (source : Source (StateM σ)) (s : Shared) : Action → Prop
  | .answer call result => ∀ uri, s.calls call = some (.fetching uri) →
      ∃ net net', (source uri).run net = (result, net')
  | _ => True

/-- Every answer was within the limit. -/
def Within (limit : Nat) (s : Shared) : Prop :=
  ∀ call uri bytes, .answered call uri (.ok bytes) ∈ s.history → bytes.length ≤ limit

theorem Within.cons {limit : Nat} {s s' : Shared} (hw : Within limit s) {e : Event}
    (hs : s'.history = e :: s.history)
    (he : ∀ call uri bytes, e = .answered call uri (.ok bytes) → bytes.length ≤ limit) :
    Within limit s' := by
  intro call uri bytes hm
  rw [hs] at hm
  rcases List.mem_cons.mp hm with rfl | hm
  · exact he call uri bytes rfl
  · exact hw call uri bytes hm

theorem Within.step {limit : Nat} {source : Source (StateM σ)}
    (hsource : ∀ uri net net' bytes, (source uri).run net = (.ok bytes, net') →
      bytes.length ≤ limit) {s s' : Shared} {a : Action} (hw : Within limit s)
    (ha : AnsweredBy source s a) (h : s.step a = some s') : Within limit s' := by
  cases Shared.step_moves h with
  | hit call uri bytes hc hg =>
    refine hw.cons rfl ?_
    intro _ _ _ he
    cases he
  | miss call uri hc hg => exact hw
  | failed call uri e hc =>
    have hfailed : Within limit (s.note (.answered call uri (.error e))) := by
      refine hw.cons rfl ?_
      intro _ _ _ he
      cases he
    refine hfailed.cons rfl ?_
    intro _ _ _ he
    cases he
  | retrieved call uri bytes hc =>
    obtain ⟨net, net', hr⟩ := ha uri hc
    refine hw.cons rfl ?_
    intro _ _ _ he
    obtain ⟨-, -, hb⟩ := Event.answered.inj he
    obtain rfl := Except.ok.inj hb
    exact hsource uri net net' bytes hr
  | stored call uri bytes next hc hn =>
    refine hw.cons rfl ?_
    intro _ _ _ he
    cases he
  | cleared => exact hw
  | poisoned => exact hw

/-- However the calls interleave and whatever the servers answer, a cache in front of capped
sources holds no more bytes than its capacity times the largest limit, and no call returns more
than that limit. -/
theorem cached_footprint {agent : Agent (StateM σ)} {buffers : Buffers} {first : Capped}
    {rest : List Capped} {capacity limit : Nat}
    (hlimit : ∀ source ∈ first :: rest, source.limit ≤ limit) {actions : List Action} {s : Shared}
    (ha : Along Shared.step (AnsweredBy (cappedChain agent buffers first rest).fetch)
      (Shared.opened capacity) actions)
    (hr : run Shared.step (Shared.opened capacity) actions = some s) :
    s.cached.held ≤ max capacity 1 * limit ∧
      ∀ call uri bytes, .returned call uri (.ok bytes) ∈ s.history → bytes.length ≤ limit := by
  have hopened : Within limit (Shared.opened capacity) := by
    intro call uri bytes hm
    cases hm
  have hw : Within limit s := run_invariant_along (fun _ _ _ hw ha h =>
    hw.step (fun _ _ _ _ hs => cappedChain_length hlimit hs) ha h) hopened ha hr
  have hi := run_inv hr
  have hanswered : ∀ uri bytes, Answered s.history uri bytes → bytes.length ≤ limit := by
    intro uri bytes h
    obtain ⟨call, hm⟩ := h
    exact hw call uri bytes hm
  constructor
  · have hheld : s.cached.held ≤ Bounded.size s.cached.entries.value * limit :=
      Bounded.weight_le fun uri bytes he => hanswered uri bytes (hi.entries uri bytes he)
    exact Nat.le_trans hheld (Nat.mul_le_mul_right limit hi.bounded)
  · intro call uri bytes hm
    obtain ⟨past, hs, hallowed⟩ := hi.lawful.of_mem hm
    obtain ⟨other, ho⟩ := hallowed
    exact hw other uri bytes (History.mem_of_suffix hs ho)

/-- A network where every gateway answers with three bytes in two chunks. -/
def terse : Agent (StateM Unit) where
  get _ := pure (.ok ⟨[[1, 2], [3]], none, by decide⟩)
  post _ := pure (.error (.other "no node"))

def roomy : Buffers := ⟨fun _ => 8, fun _ => by decide⟩

def node : KuboRpc := (KuboRpc.new "http://127.0.0.1:5001").withSizeLimit 3

def gateway : Gateway := (Gateway.new "https://ipfs.example").withSizeLimit 3

theorem chained_answers : ((cappedChain terse roomy (.kuboRpc node) [.gateway gateway]).fetch
    pinned).run () = (.ok [1, 2, 3], ()) := by
  have hread : (readCapped roomy ⟨[[1, 2], [3]], none, by decide⟩
      (gatewayUrl "https://ipfs.example" ⟨"bafkreidenehphc2", by decide, by decide⟩) 3).1 =
        .ok [1, 2, 3] := by
    unfold readCapped
    rw [(readUpTo_eq roomy _ _ (by decide) _).1]
    rfl
  have hgateway : (gateway.fetch terse roomy pinned).run () = (.ok [1, 2, 3], ()) := by
    unfold gateway pinned
    rw [Gateway.fetch_ipfs]
    exact congrArg (fun answer => (answer, ())) hread
  have hnode : ∃ e, (node.fetch terse roomy pinned).run () = (.error e, ()) := by
    unfold node pinned
    rw [KuboRpc.fetch_ipfs]
    exact ⟨_, rfl⟩
  obtain ⟨e, hnode⟩ := hnode
  have hchain := Fallback.fetch_eq ((Capped.kuboRpc node).fetch terse roomy)
    [(Capped.gateway gateway).fetch terse roomy] pinned e
  have hfirst : (firstOk ((Capped.kuboRpc node).fetch terse roomy pinned ::
      [(Capped.gateway gateway).fetch terse roomy pinned]) e).run () =
        (firstOk [(Capped.gateway gateway).fetch terse roomy pinned] e).run () :=
    firstOk_run_error hnode
  exact (congrArg (fun x => x.run ()) hchain).trans (hfirst.trans (firstOk_run_ok hgateway))

/-- A miss of one document, and a miss of the same one while it is stored. -/
def twice : List Action :=
  [.fetch 0 pinned, .fetch 1 pinned, .answer 0 (.ok [1, 2, 3]), .insert 0 none,
    .answer 1 (.ok [1, 2, 3]), .insert 1 (some pinned)]

theorem twice_answered : Along Shared.step
    (AnsweredBy (cappedChain terse roomy (.kuboRpc node) [.gateway gateway]).fetch)
    (Shared.opened 1) twice := by
  have hanswer : ∀ s : Shared, ∀ call, s.calls call = some (.fetching pinned) →
      AnsweredBy (cappedChain terse roomy (.kuboRpc node) [.gateway gateway]).fetch s
        (.answer call (.ok [1, 2, 3])) := by
    intro s call hc uri hu
    obtain rfl := Phase.fetching.inj (Option.some.inj (hc.symm.trans hu))
    exact ⟨(), (), chained_answers⟩
  refine ⟨trivial, fun s hs => ⟨trivial, fun s' hs' => ?_⟩⟩
  obtain rfl := Option.some.inj hs
  obtain rfl := Option.some.inj hs'
  refine ⟨hanswer _ 0 rfl, fun s hs => ⟨trivial, fun s' hs' => ?_⟩⟩
  obtain rfl := Option.some.inj hs
  obtain rfl := Option.some.inj hs'
  exact ⟨hanswer _ 1 rfl, fun s _ => ⟨trivial, fun _ _ => trivial⟩⟩

theorem cached_footprint_twice : ∃ s, run Shared.step (Shared.opened 1) twice = some s ∧
    s.cached.entry pinned = some [1, 2, 3] ∧ s.cached.held ≤ max 1 1 * 3 := by
  obtain ⟨s, hr, hp⟩ : ∃ s, run Shared.step (Shared.opened 1) twice = some s ∧
      s.cached.entry pinned = some [1, 2, 3] := ⟨_, rfl, rfl⟩
  exact ⟨s, hr, hp, (cached_footprint (by decide) twice_answered hr).1⟩

end VerityVerifier.Retrieval
