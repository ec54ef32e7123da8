import EctoModbus.Bus.Faults
import EctoModbus.Bus.ThreadsDefs

/-! Requests that come in the middle of a poll. A request to a slave that the poll has not come to
yet might as well have come before the poll, one to any other slave after it. -/

namespace Ecto
open Python Transition

namespace Node
variable {σ : Type} [ModbusSlave σ] {n : Node σ} {r : Request}

def handle (r : Request) (n : Node σ) : Node σ :=
  if r.unit = n.addr then
    let base := (EctoDevice.masterWrite r.a (requestValues r.ws)).after n.device.base
    { n with device := n.device.withBase base }
  else n

theorem handle_of_ne (h : r.unit ≠ n.addr) : n.handle r = n := if_neg h

def serve (rs : List Request) (n : Node σ) : Node σ := rs.foldl (fun n r => n.handle r) n

theorem serve_snoc (rs : List Request) (r : Request) (n : Node σ) :
    n.serve (rs ++ [r]) = (n.serve rs).handle r := by
  simp only [serve, List.foldl_append, List.foldl_cons, List.foldl_nil]

theorem serve_of_ne {rs : List Request} (h : ∀ r ∈ rs, r.unit ≠ n.addr) : n.serve rs = n := by
  induction rs with
  | nil => rfl
  | cons r rs ih =>
    have hr := handle_of_ne (h r List.mem_cons_self)
    show serve rs (n.handle r) = n
    rw [hr]
    exact ih fun r' hr' => h r' (List.mem_cons_of_mem r hr')

theorem map_serve_of_ne {rs : List Request} {ns : List (Node σ)}
    (h : ∀ r ∈ rs, ∀ n ∈ ns, r.unit ≠ n.addr) : ns.map (serve rs) = ns := by
  have hid : ∀ n ∈ ns, n.serve rs = id n := fun n hn => serve_of_ne fun r hr => h r hr n hn
  rw [List.map_congr_left hid, List.map_id]

theorem map_handle_of_ne {ns : List (Node σ)} (h : ∀ n ∈ ns, r.unit ≠ n.addr) :
    ns.map (handle r) = ns := by
  have hall : ∀ r' ∈ [r], ∀ n ∈ ns, r'.unit ≠ n.addr := by
    intro r' hr' n hn
    rw [List.mem_singleton.1 hr']
    exact h n hn
  exact map_serve_of_ne hall

variable [LawfulModbusSlave σ]

theorem addr_handle (r : Request) (n : Node σ) : (n.handle r).addr = n.addr := by
  unfold handle
  split_ifs
  · obtain ⟨slave, hb⟩ := EctoDevice.masterWrite_slave r.a (requestValues r.ws) n.device.base
    show (n.device.withBase _).base.addr = n.addr
    rw [Device.base_withBase, hb]
    rfl
  · rfl

theorem addr_serve (rs : List Request) (n : Node σ) : (n.serve rs).addr = n.addr := by
  induction rs generalizing n with
  | nil => rfl
  | cons r rs ih => exact (ih (n.handle r)).trans (addr_handle r n)

end Node

namespace BusSystem
open PyM
variable {σ η : Type}
variable {float : String → Except PyException PyFloat} {b : Bus σ η}

theorem route_request (r : Request) (n : Node σ) : n.route r.action =
    if r.unit = 0 ∨ r.unit = n.addr then some (.masterWrite r.a r.ws) else none := rfl

theorem enabled_request (r : Request) (b : Bus σ η) : Enabled b r.action := by
  rintro n _ a ha
  rw [route_request] at ha
  split_ifs at ha
  · cases ha
    trivial
  · cases ha

theorem enabled_poll (b : Bus σ η) : Enabled b .poll := by
  rintro n _ a ha
  cases ha
  trivial

variable [ModbusSlave σ] [HassStates η]

theorem onRouted_request {r : Request} (hr : r.unit ≠ 0) (n : Node σ) (hass : η) :
    (onRouted float r.action).after (n, hass) = (n.handle r, hass) := by
  rw [after_onRouted, route_request, Node.handle]
  by_cases hu : r.unit = n.addr
  · rw [if_pos (Or.inr hu), if_pos hu]
    show (onNode float (.masterWrite r.a r.ws)).after (n, hass) = _
    rw [after_onNode, NodeSystem.after_masterWrite]
    rfl
  · have hout : ¬ (r.unit = 0 ∨ r.unit = n.addr) := not_or.2 ⟨hr, hu⟩
    rw [if_neg hout, if_neg hu]
    rfl

variable [LawfulModbusSlave σ]

/-- A request changes the registers of its slave, and nothing else on the bus. -/
theorem step_request {r : Request} (hr : r.unit ≠ 0) (b : Bus σ η) :
    (machine η float).step b r.action = ⟨b.nodes.map (Node.handle r), b.hass⟩ := by
  have hround : ∀ (n : Node σ) (w : η), True →
      ∃ a v, asTask (onRouted float r.action) (n, w) = .ok a (n.handle r, v) := by
    intro n w _
    refine ⟨(), w, ?_⟩
    rw [← onRouted_request hr n w]
    rfl
  have htrivial : ∀ n ∈ b.nodes, True := fun _ _ => trivial
  obtain ⟨v, hok⟩ := each_ok hround htrivial b.hass
  have hv : ((each (asTask (onRouted float r.action))).after (b.nodes, b.hass)).2 = b.hass := by
    -- a request does not reach Home Assistant
    refine world_after_each (Q := fun w : η => w = b.hass) (fun n _ w hw => ?_) rfl
    rw [after_asTask, onRouted_request hr]
    exact hw
  rw [after_ok hok] at hv
  have hafter : (call float r.action).after (b.nodes, b.hass) = (b.nodes.map (Node.handle r), v) :=
    after_ok hok
  show Bus.mk ((call float r.action).after (b.nodes, b.hass)).1 _ = _
  rw [hafter]
  exact congrArg (Bus.mk _) hv

theorem run_requests (rs : List Request) (hrs : ∀ r ∈ rs, r.unit ≠ 0) (b : Bus σ η) :
    (machine η float).run b (rs.map Request.action) = ⟨b.nodes.map (Node.serve rs), b.hass⟩ := by
  induction rs generalizing b with
  | nil =>
    show b = ⟨b.nodes.map (fun n => n), b.hass⟩
    rw [List.map_id']
  | cons r rs ih =>
    show (machine η float).run ((machine η float).step b r.action) _ = _
    rw [step_request (hrs r List.mem_cons_self),
      ih fun r' hr' => hrs r' (List.mem_cons_of_mem r hr'),
      List.map_map]
    rfl

theorem isRun_requests (rs : List Request) (b : Bus σ η) :
    (machine η float).IsRun b (rs.map Request.action) := by
  induction rs generalizing b with
  | nil => trivial
  | cons r rs ih => exact ⟨enabled_request r b, ih _⟩

end BusSystem

namespace Threads
open PyM BusSystem
variable {σ η : Type} [ModbusSlave σ] [LawfulModbusSlave σ] [HassStates η]
variable {float : String → Except PyException PyFloat} {b : Bus σ η} {s : Threads σ η}
  {as : List BusSystem.Action} {hs : List Action}

/-- The event loop and each slave see the same in both runs, and in the same order. -/
structure InOrder (as : List BusSystem.Action) (hs : List Action) : Prop where
  calls : BusSystem.calls as = Threads.calls hs
  requests : ∀ unit, BusSystem.requests unit as = Threads.requests unit hs

theorem inOrder_nil : InOrder [] [] := ⟨rfl, fun _ => rfl⟩

theorem InOrder.append {as' : List BusSystem.Action} {hs' : List Action} (h : InOrder as hs)
    (h' : InOrder as' hs') : InOrder (as ++ as') (hs ++ hs') := by
  refine ⟨?_, fun unit => ?_⟩
  · simp only [BusSystem.calls, Threads.calls, List.filter_append, List.filterMap_append]
    exact congrArg₂ _ h.calls h'.calls
  · simp only [BusSystem.requests, Threads.requests, List.filter_append, List.filterMap_append]
    exact congrArg₂ _ (h.requests unit) (h'.requests unit)

theorem inOrder_call {x : BusSystem.Action} (hx : asRequest x = none) : InOrder [x] [.call x] := by
  refine ⟨?_, fun unit => ?_⟩
  · simp [BusSystem.calls, Threads.calls, hx]
  · simp [BusSystem.requests, Threads.requests, hx]

theorem inOrder_device : InOrder [] [.device] := ⟨rfl, fun _ => rfl⟩

theorem inOrder_request (r : Request) : InOrder [r.action] [.request r] := ⟨rfl, fun _ => rfl⟩

/-- No poll is under way, and the bus is what a run of whole polls has made of it. -/
def Idle (float : String → Except PyException PyFloat) (b : Bus σ η) (hs : List Action)
    (s : Threads σ η) : Prop :=
  s.next = none ∧ ∃ as, (BusSystem.machine η float).IsRun b as ∧
    (BusSystem.machine η float).run b as = s.bus ∧ InOrder as hs

/-- The poll has come past the devices `xs` of the bus that `as` leads to, and made `ys` of them.
What has been asked of `ys` since then can wait until after the poll. -/
structure Polling (float : String → Except PyException PyFloat) (b : Bus σ η) (hs : List Action)
    (s : Threads σ η) (as : List BusSystem.Action) (after : List Request) (xs ys zs : List (Node σ))
    (hass : η) : Prop where
  isRun : (BusSystem.machine η float).IsRun b as
  order : InOrder (as ++ .poll :: after.map Request.action) hs
  nodes : ((BusSystem.machine η float).run b as).nodes = xs ++ zs
  polled : each (onNode float .poll) (xs, ((BusSystem.machine η float).run b as).hass) =
    .ok () (ys, hass)
  units : ∀ r ∈ after, r.unit ≠ 0
  away : ∀ r ∈ after, ∀ z ∈ zs, r.unit ≠ z.addr
  bus : s.bus = ⟨ys.map (Node.serve after) ++ zs, hass⟩
  next : s.next = some ys.length

theorem requests_append (unit : ℕ) (as as' : List BusSystem.Action) :
    BusSystem.requests unit (as ++ as') =
      BusSystem.requests unit as ++ BusSystem.requests unit as' := by
  simp only [BusSystem.requests, List.filterMap_append, List.filter_append]

theorem requests_of_ne {unit : ℕ} {rs : List Request} (h : ∀ r ∈ rs, r.unit ≠ unit) :
    BusSystem.requests unit (rs.map Request.action) = [] := by
  have hrs : (rs.map Request.action).filterMap asRequest = rs := by
    rw [List.filterMap_map]
    exact List.filterMap_some
  rw [BusSystem.requests, hrs, List.filter_eq_nil_iff]
  exact fun r hr => by simpa using h r hr

/-- A request before a poll and the requests that wait for its end, none of them for that slave. -/
theorem InOrder.before {after : List Request} {r : Request}
    (h : InOrder (as ++ .poll :: after.map Request.action) hs)
    (hr : ∀ r' ∈ after, r'.unit ≠ r.unit) :
    InOrder ((as ++ [r.action]) ++ .poll :: after.map Request.action) (hs ++ [.request r]) := by
  have hall := h.append (inOrder_request r)
  refine ⟨?_, fun unit => ?_⟩
  · rw [← hall.calls]
    simp [BusSystem.calls, List.filter_append, Request.action, asRequest]
  · rw [← hall.requests unit]
    simp only [requests_append, List.append_assoc]
    apply congrArg _
    have hpoll : ∀ as' : List BusSystem.Action,
        BusSystem.requests unit (.poll :: as') = BusSystem.requests unit as' := fun _ => rfl
    -- the requests after the poll are for other slaves
    rw [hpoll]
    by_cases hu : unit = r.unit
    · subst hu
      rw [requests_of_ne hr, List.append_nil, List.nil_append]
    · have hne : ∀ r' ∈ [r], r'.unit ≠ unit := by
        intro r' hr'
        rw [List.mem_singleton.1 hr']
        exact fun h => hu h.symm
      have hnone : BusSystem.requests unit [r.action] = [] := requests_of_ne hne
      rw [hnone, List.append_nil, List.nil_append]

variable {after : List Request} {xs ys zs : List (Node σ)} {hass : η}

theorem Polling.map_addr (h : Polling float b hs s as after xs ys zs hass) :
    ys.map Node.addr = xs.map Node.addr := by
  have hkeeps := forall₂_after_each Keeps.refl (fun n w => keeps_onNode float .poll n w) xs
    ((BusSystem.machine η float).run b as).hass
  rw [after_ok h.polled] at hkeeps
  exact map_addr_of_keeps hkeeps

theorem Polling.nodup (h : Polling float b hs s as after xs ys zs hass) (hb : Init b) :
    ((xs ++ zs).map Node.addr).Nodup := by
  have hinit : (BusSystem.machine η float).Reachable b := .init hb
  have hinv := inv_reachable (hinit.run h.isRun)
  rw [← h.nodes]
  exact hinv.nodup

/-- At the end of a poll the requests that have waited are served. -/
theorem Polling.idle (h : Polling float b hs s as after xs ys zs hass) (ns : List (Node σ)) (w : η)
    (hp : (each (onNode float .poll)).after
      (xs ++ zs, ((BusSystem.machine η float).run b as).hass) =
      (ns, w)) {s' : Threads σ η} (hbus : s'.bus = ⟨ns.map (Node.serve after), w⟩)
    (hnext : s'.next = none) : Idle float b (hs ++ [.device]) s' := by
  refine ⟨hnext, as ++ .poll :: after.map Request.action, ?_, ?_, ?_⟩
  · exact (Machine.everyStep_append ..).2 ⟨h.isRun, enabled_poll _, isRun_requests after _⟩
  · have hstep : (BusSystem.machine η float).step ((BusSystem.machine η float).run b as) .poll =
        ⟨ns, w⟩ := by
      have hcall : (call float .poll).after (((BusSystem.machine η float).run b as).nodes,
          ((BusSystem.machine η float).run b as).hass) = (ns, w) := by
        rw [h.nodes]
        exact hp
      show Bus.mk ((call float .poll).after _).1 ((call float .poll).after _).2 = _
      rw [hcall]
    rw [Machine.run_append, Machine.run, hstep, run_requests after h.units, hbus]
  · have horder := h.order.append inOrder_device
    rwa [List.append_nil] at horder

theorem getElem?_length_append {α : Type} (l : List α) (n : α) (ns : List α) :
    (l ++ n :: ns)[l.length]? = some n := by
  rw [List.getElem?_append_right le_rfl, Nat.sub_self]
  rfl

theorem set_length_append {α : Type} (l : List α) (n n' : α) (ns : List α) :
    (l ++ n :: ns).set l.length n' = l ++ n' :: ns := by
  rw [List.set_append_right _ _ le_rfl, Nat.sub_self]
  rfl

theorem Polling.device (h : Polling float b hs s as after xs ys zs hass) :
    Idle float b (hs ++ [.device]) (pollNext float s) ∨
      ∃ xs' ys' zs' hass', Polling float b (hs ++ [.device]) (pollNext float s) as after xs' ys' zs'
        hass' := by
  have hlen : (ys.map (Node.serve after)).length = ys.length := List.length_map _
  rcases zs with _ | ⟨z, zs⟩
  · -- the loop has come to its end
    left
    have hnone : s.bus.nodes[ys.length]? = none := by
      rw [h.bus, ← hlen, List.append_nil]
      exact List.getElem?_eq_none le_rfl
    have hnext : pollNext float s = { s with next := none } := by
      simp only [pollNext, h.next, hnone]
    refine h.idle ys hass ?_ ?_ ?_
    · rw [List.append_nil, after_ok h.polled]
    · rw [hnext, h.bus, List.append_nil]
    · rw [hnext]
  · have hz : s.bus.nodes[ys.length]? = some z := by
      rw [h.bus, ← hlen]
      exact getElem?_length_append ..
    have hset : ∀ z', s.bus.nodes.set ys.length z' = ys.map (Node.serve after) ++ z' :: zs := by
      intro z'
      rw [h.bus, ← hlen]
      exact set_length_append ..
    have hhass : s.bus.hass = hass := congrArg Bus.hass h.bus
    have hserve : ∀ z' : Node σ, z'.addr = z.addr → z'.serve after = z' := by
      intro z' haddr
      apply Node.serve_of_ne
      intro r hr
      rw [haddr]
      exact h.away r hr z List.mem_cons_self
    have hrest : zs.map (Node.serve after) = zs :=
      Node.map_serve_of_ne fun r hr n hn => h.away r hr n (List.mem_cons_of_mem z hn)
    have haddr := (keeps_onNode float .poll z hass).device.addr
    cases hround : onNode float .poll (z, hass) with
    | ok u q =>
      obtain ⟨z', w⟩ := q
      rw [after_ok hround] at haddr
      right
      have hnext : pollNext float s =
          ⟨⟨s.bus.nodes.set ys.length z', w⟩, some (ys.length + 1)⟩ := by
        simp only [pollNext, h.next, hz, hhass, hround]
      refine ⟨xs ++ [z], ys ++ [z'], zs, w, h.isRun, ?_, ?_, each_snoc_ok h.polled hround, h.units,
        fun r hr n hn => h.away r hr n (List.mem_cons_of_mem z hn), ?_, ?_⟩
      · have horder := h.order.append inOrder_device
        rwa [List.append_nil] at horder
      · rw [h.nodes, List.append_assoc, List.singleton_append]
      · rw [hnext, hset, List.map_append, List.append_assoc, List.map_singleton, hserve z' haddr]
        rfl
      · rw [hnext, List.length_append, List.length_singleton]
    | error e q =>
      obtain ⟨z', w⟩ := q
      rw [after_error hround] at haddr
      left
      have hnext : pollNext float s = ⟨⟨s.bus.nodes.set ys.length z', w⟩, none⟩ := by
        simp only [pollNext, h.next, hz, hhass, hround]
      refine h.idle (ys ++ z' :: zs) w ?_ ?_ ?_
      · rw [after_error (each_stops h.polled hround zs)]
      · rw [hnext, hset, List.map_append, List.map_cons, hserve z' haddr, hrest]
      · rw [hnext]

theorem Polling.request (h : Polling float b hs s as after xs ys zs hass) (hb : Init b)
    {r : Request} (hr : r.unit ≠ 0) : ∃ as' after' zs',
      Polling float b (hs ++ [.request r]) ((machine η float).step s (.request r))
        as' after' xs ys zs'
        hass := by
  have hbus : ((machine η float).step s (.request r)).bus =
      ⟨(ys.map (Node.serve after) ++ zs).map (Node.handle r), hass⟩ := by
    show (BusSystem.machine η float).step s.bus r.action = _
    rw [step_request hr, h.bus]
  by_cases hz : ∃ z ∈ zs, r.unit = z.addr
  · -- the poll has yet to come to the slave
    obtain ⟨z, hz, hu⟩ := hz
    have hne : ∀ addr ∈ xs.map Node.addr, r.unit ≠ addr := by
      intro addr hx
      have hnodup := h.nodup hb
      rw [List.map_append, List.nodup_append] at hnodup
      rw [hu]
      exact (hnodup.2.2 addr hx z.addr (List.mem_map_of_mem hz)).symm
    have hx : xs.map (Node.handle r) = xs :=
      Node.map_handle_of_ne fun n hn => hne n.addr (List.mem_map_of_mem hn)
    have hy : (ys.map (Node.serve after)).map (Node.handle r) = ys.map (Node.serve after) := by
      apply Node.map_handle_of_ne
      intro n hn
      obtain ⟨y, hy, rfl⟩ := List.mem_map.1 hn
      rw [Node.addr_serve]
      apply hne y.addr
      rw [← h.map_addr]
      exact List.mem_map_of_mem hy
    have hrun : (BusSystem.machine η float).run b (as ++ [r.action]) =
        ⟨((BusSystem.machine η float).run b as).nodes.map (Node.handle r),
          ((BusSystem.machine η float).run b as).hass⟩ := by
      rw [Machine.run_append]
      exact step_request hr _
    refine ⟨as ++ [r.action], after, zs.map (Node.handle r), ?_, ?_, ?_, ?_,
      h.units, ?_, ?_, h.next⟩
    · exact (Machine.everyStep_append ..).2 ⟨h.isRun, enabled_request r _, trivial⟩
    · apply h.order.before
      intro r' hr'
      rw [hu]
      exact h.away r' hr' z hz
    · rw [hrun, h.nodes, List.map_append, hx]
    · rw [hrun]
      exact h.polled
    · intro r' hr' n hn
      obtain ⟨z', hz', rfl⟩ := List.mem_map.1 hn
      rw [Node.addr_handle]
      exact h.away r' hr' z' hz'
    · rw [hbus, List.map_append, hy]
  · have haway : ∀ z ∈ zs, r.unit ≠ z.addr := fun z hz' hu => hz ⟨z, hz', hu⟩
    have hy : (ys.map (Node.serve after)).map (Node.handle r) =
        ys.map (Node.serve (after ++ [r])) := by
      rw [List.map_map]
      exact List.map_congr_left fun y _ => (Node.serve_snoc after r y).symm
    refine ⟨as, after ++ [r], zs, h.isRun, ?_, h.nodes, h.polled, ?_, ?_, ?_, h.next⟩
    · have horder := h.order.append (inOrder_request r)
      rwa [List.append_assoc, List.cons_append, ← List.map_singleton, ← List.map_append] at horder
    · exact List.forall_mem_append.2 ⟨h.units, List.forall_mem_singleton.2 hr⟩
    · exact List.forall_mem_append.2 ⟨h.away, List.forall_mem_singleton.2 haway⟩
    · rw [hbus, List.map_append, hy, Node.map_handle_of_ne haway]

theorem Idle.step (h : Idle float b hs s) {x : BusSystem.Action} (hx : BusSystem.Enabled s.bus x)
    {a : Action} (ha : InOrder [x] [a]) {s' : Threads σ η}
    (hs' : s' = { s with bus := (BusSystem.machine η float).step s.bus x }) :
    Idle float b (hs ++ [a]) s' := by
  obtain ⟨hnext, as, hr, hrun, horder⟩ := h
  subst hs'
  refine ⟨hnext, as ++ [x], ?_, ?_, horder.append ha⟩
  · refine (Machine.everyStep_append ..).2 ⟨hr, ?_, trivial⟩
    rw [hrun]
    exact hx
  · rw [Machine.run_append, hrun]
    rfl

theorem Idle.poll (h : Idle float b hs s) : ∃ as after xs ys zs hass,
    Polling float b (hs ++ [.call .poll]) ((machine η float).step s (.call .poll)) as after xs ys zs
      hass := by
  obtain ⟨hnext, as, hr, hrun, horder⟩ := h
  refine ⟨as, [], [], [], s.bus.nodes, s.bus.hass, hr, horder.append (inOrder_call rfl), ?_, ?_,
    fun r hr => absurd hr List.not_mem_nil, fun r hr => absurd hr List.not_mem_nil, rfl, rfl⟩
  · rw [hrun]
    rfl
  · rw [hrun]
    rfl

/-- In a run of the two threads, between polls and within them. -/
def Serializes (float : String → Except PyException PyFloat) (b : Bus σ η) (hs : List Action)
    (s : Threads σ η) : Prop :=
  Idle float b hs s ∨ ∃ as after xs ys zs hass, Polling float b hs s as after xs ys zs hass

theorem Serializes.step (h : Serializes float b hs s) (hb : Init b) {a : Action}
    (ha : s.Enabled a) : Serializes float b (hs ++ [a]) ((machine η float).step s a) := by
  cases a with
  | call x =>
    obtain ⟨hnext, hx, he⟩ := ha
    rcases h with h | ⟨as, after, xs, ys, zs, hass, h⟩
    · by_cases hp : x = .poll
      · subst hp
        exact Or.inr h.poll
      · refine Or.inl (h.step he (inOrder_call hx) ?_)
        cases x with
        | poll => exact absurd rfl hp
        | _ => rfl
    · cases h.next.symm.trans hnext
  | device =>
    rcases h with h | ⟨as, after, xs, ys, zs, hass, h⟩
    · -- outside of a poll there is no device to go on to
      have hnext := h.1
      unfold Enabled at ha
      rw [hnext] at ha
      cases ha
    · rcases h.device with h | ⟨xs', ys', zs', hass', h⟩
      · exact Or.inl h
      · exact Or.inr ⟨as, after, xs', ys', zs', hass', h⟩
  | request r =>
    rcases h with h | ⟨as, after, xs, ys, zs, hass, h⟩
    · exact Or.inl (h.step (enabled_request r _) (inOrder_request r) rfl)
    · obtain ⟨as', after', zs', h'⟩ := h.request hb ha
      exact Or.inr ⟨as', after', xs, ys, zs', hass, h'⟩

theorem Serializes.run (h : Serializes float b hs s) (hb : Init b) {hs' : List Action}
    (hr : (machine η float).IsRun s hs') :
    Serializes float b (hs ++ hs') ((machine η float).run s hs') := by
  induction hs' generalizing s hs with
  | nil => rwa [List.append_nil]
  | cons a hs' ih =>
    have hrest := ih (h.step hb hr.1) hr.2
    rwa [List.append_assoc, List.singleton_append] at hrest

/-- However the master's requests fall into the polls, at the end of the last poll the bus is what
some run with whole polls makes of it: a run with the same calls in the event loop and the same
requests to each slave, in the same order. -/
theorem run_serializes (hs₀ : (machine η float).Init s) (hr : (machine η float).IsRun s hs)
    (hidle : ((machine η float).run s hs).next = none) :
    ∃ as, (BusSystem.machine η float).IsRun s.bus as ∧
      (BusSystem.machine η float).run s.bus as = ((machine η float).run s hs).bus ∧
      BusSystem.calls as = calls hs ∧ ∀ unit, BusSystem.requests unit as = requests unit hs := by
  have hstart : Serializes float s.bus [] s := Or.inl ⟨hs₀.2, [], trivial, rfl, inOrder_nil⟩
  rcases hstart.run hs₀.1 hr with h | ⟨as, after, xs, ys, zs, hass, h⟩
  · obtain ⟨_, as, has, hrun, horder⟩ := h
    exact ⟨as, has, hrun, horder.calls, horder.requests⟩
  · cases h.next.symm.trans hidle

/-- Requests come to the relay before and after the poll does, and to the contact sensor before. -/
def busy (e : Fin 10) : List Action :=
  [.call (.addEntity 3 e none), .request ⟨3, 0x10, [0x0200#16]⟩, .call .poll,
    .request ⟨3, 0x10, [0x0100#16]⟩, .device, .request ⟨3, 0x10, [0x0000#16]⟩,
    .request ⟨4, 0x00, [0x0080#16]⟩, .device, .device, .device]

theorem busy_run_serializes :
    ∃ as, (BusSystem.machine Display EctoTemperatureSensor.parsed).IsRun bus₃ as ∧
      (BusSystem.machine Display EctoTemperatureSensor.parsed).run bus₃ as =
        ((machine Display EctoTemperatureSensor.parsed).run ⟨bus₃, none⟩ (busy 0)).bus ∧
      BusSystem.calls as = calls (busy 0) ∧
        ∀ unit, BusSystem.requests unit as = requests unit (busy 0) := by
  have hinit : (machine Display EctoTemperatureSensor.parsed).Init ⟨bus₃, none⟩ :=
    ⟨init_ofSetup fresh_start setup_start _, rfl⟩
  have hr : (machine Display EctoTemperatureSensor.parsed).IsRun ⟨bus₃, none⟩ (busy 0) := by
    decide +kernel
  have hidle :
      ((machine Display EctoTemperatureSensor.parsed).run ⟨bus₃, none⟩ (busy 0)).next = none := by
    decide +kernel
  exact run_serializes hinit hr hidle

end Threads
end Ecto
