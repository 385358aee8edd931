import Lamella.DevicesCore
import Lamella.MachineCore

/-!
Devices the NUSB loops leave behind.  A device enters `seen` when its interface is registered,
before its handshake, and is not looked at again while it stays connected.  So an interface
whose route is not published by the poll that registers it is never queried again.
-/

namespace Lamella

def UsbDevice.answersMac (device : UsbDevice) : Bool :=
  match queryMacWithRetryNusb device.queries with
  | .ok _ => true
  | .error _ => false

def UsbDevice.hasRoute (device : UsbDevice) : Bool :=
  match nusbPeerAddress device.state with
  | .ok _ => true
  | .error _ => false

def DevicesPhase.isReturned : DevicesPhase → Bool
  | .returned _ => true
  | .initial | .watching _ _ => false

def DevicesEvent.Lists (info : DeviceInfo) : DevicesEvent → Prop
  | .poll listing _ => ∃ connected, currentDeviceInfos listing = some connected ∧ info ∈ connected
  | .cancelled => False

/-- While its device stays connected, the interface is queried on a later poll. -/
def Devices.Requeried (devices : Devices) (interface : UInt8 × DeviceInfo) : Prop :=
  ∃ count, ∀ polls : List DevicesEvent, count ≤ polls.length →
    (∀ poll ∈ polls, poll.Lists interface.2) → ∀ final trace,
      Machine.run Devices.step devices polls = some (final, trace) →
        .queried interface.2 interface.1 ∈ trace

/-- Inside the loops, every registered interface of a seen device whose route is not published is
queried again. -/
def Devices.Requeries (devices : Devices) : Prop :=
  devices.phase.isReturned = false → ∀ interface ∈ devices.unrouted,
    interface.2 ∈ devices.seen → devices.Requeried interface

def adopted (interfaceId : UInt8) (entry : UInt8 × UsbDevice) : Bool :=
  entry.1 ≠ interfaceId && entry.2.answersMac && entry.2.hasRoute

/-- The poll publishes the route of every interface it registers.  The initial loop only looks at
the first of them; nothing is asked of a poll that makes `run` return. -/
def Devices.Adopts (devices : Devices) : DevicesEvent → Prop
  | .cancelled => True
  | .poll listing tap =>
      let registered := (reconcileAndRegisterDevices devices.seen listing).2
      match devices.phase with
      | .initial => ∀ entry ∈ registered.head?, entry.2.answersMac = true ∧
          (entry.2.hasRoute = true → tap = .ok () → registered = [entry])
      | .watching interfaceId _ => ∀ entry ∈ registered, adopted interfaceId entry = true
      | .returned _ => True

/-! `reconcile_and_register_devices`. -/

theorem mem_retainConnected {listing : Listing} {seen : List DeviceInfo} {info : DeviceInfo} :
    info ∈ retainConnected listing seen ↔
      info ∈ seen ∧ ∀ connected, currentDeviceInfos listing = some connected → info ∈ connected := by
  unfold retainConnected
  cases current : currentDeviceInfos listing with
  | none => simp
  | some connected => simp

theorem mem_registerDevices_seen {devices : List UsbDevice} {seen : List DeviceInfo}
    {info : DeviceInfo} :
    info ∈ (registerDevices seen devices).1 ↔
      info ∈ seen ∨ ∃ entry ∈ (registerDevices seen devices).2, entry.2.info = info := by
  induction devices generalizing seen with
  | nil => simp [registerDevices]
  | cons device rest ih =>
      cases result : device.register with
      | error error => simp only [registerDevices, result, ih]
      | ok ident =>
          simp only [registerDevices, result, ih, List.mem_insert_iff, List.mem_cons,
            exists_eq_or_imp]
          constructor
          · rintro ((rfl | old) | later)
            · exact .inr (.inl rfl)
            · exact .inl old
            · exact .inr (.inr later)
          · rintro (old | rfl | later)
            · exact .inl (.inr old)
            · exact .inl (.inl rfl)
            · exact .inr later

theorem mem_of_mem_registerDevices {devices : List UsbDevice} {seen : List DeviceInfo}
    {entry : UInt8 × UsbDevice} (member : entry ∈ (registerDevices seen devices).2) :
    entry.2 ∈ devices := by
  induction devices generalizing seen with
  | nil => simp [registerDevices] at member
  | cons device rest ih =>
      cases result : device.register with
      | error error =>
          simp only [registerDevices, result] at member
          exact List.mem_cons_of_mem _ (ih member)
      | ok ident =>
          simp only [registerDevices, result, List.mem_cons] at member
          rcases member with rfl | later
          · exact List.mem_cons_self
          · exact List.mem_cons_of_mem _ (ih later)

theorem registered_unseen {seen : List DeviceInfo} {listing : Listing} {entry : UInt8 × UsbDevice}
    (member : entry ∈ (reconcileAndRegisterDevices seen listing).2) :
    entry.2.info ∉ retainConnected listing seen := by
  have new := mem_of_mem_registerDevices member
  simp only [findNewDevices, List.mem_filter, Bool.and_eq_true, decide_eq_true_eq] at new
  exact new.2.2

theorem mem_reconcile_seen {devices : Devices} {listing : Listing} {info : DeviceInfo} :
    info ∈ (devices.reconcile listing).seen ↔
      info ∈ retainConnected listing devices.seen ∨
        ∃ entry ∈ (reconcileAndRegisterDevices devices.seen listing).2, entry.2.info = info :=
  mem_registerDevices_seen

def interfaceOf (entry : UInt8 × UsbDevice) : UInt8 × DeviceInfo := (entry.1, entry.2.info)

theorem reconcile_unrouted {devices : Devices} (routed : devices.unrouted = [])
    (listing : Listing) :
    (devices.reconcile listing).unrouted =
      (reconcileAndRegisterDevices devices.seen listing).2.map interfaceOf := by
  simp only [Devices.reconcile, routed, List.filter_nil, List.nil_append]
  rfl

theorem mem_reconcile_unrouted {devices : Devices} {listing : Listing}
    {interface : UInt8 × DeviceInfo}
    (member : interface ∈ (devices.reconcile listing).unrouted) :
    interface.2 ∈ (devices.reconcile listing).seen := by
  rw [mem_reconcile_seen]
  rcases List.mem_append.mp member with kept | new
  · exact .inl (of_decide_eq_true (List.mem_filter.mp kept).2)
  · obtain ⟨entry, registered, rfl⟩ := List.mem_map.mp new
    exact .inr ⟨entry, registered, rfl⟩

/-! What a poll does with the interfaces it registered. -/

theorem initialPoll_seen (devices : Devices) (tap : Except IoError Unit)
    (registered : List (UInt8 × UsbDevice)) :
    (devices.initialPoll tap registered).1.seen = devices.seen := by
  unfold Devices.initialPoll
  split
  · rfl
  · dsimp only
    split
    · rfl
    · split
      · rfl
      · split <;> rfl

theorem initialPoll_queried {devices : Devices} {tap : Except IoError Unit}
    {registered : List (UInt8 × UsbDevice)} {info : DeviceInfo} {interface : UInt8}
    (queried : .queried info interface ∈ (devices.initialPoll tap registered).2) :
    ∃ entry ∈ registered, entry.2.info = info := by
  match registered with
  | [] => simp [Devices.initialPoll] at queried
  | (ident, device) :: rest =>
      refine ⟨_, List.mem_cons_self, ?_⟩
      unfold Devices.initialPoll at queried
      dsimp only at queried
      split at queried
      · simp at queried
        exact queried.1.symm
      · split at queried
        · simp at queried
          exact queried.1.symm
        · split at queried <;>
          · simp at queried
            exact queried.1.symm

theorem reconnect_frame (interfaceId : UInt8) (expectedMac : Mac) (devices : Devices)
    (entry : UInt8 × UsbDevice) :
    (devices.reconnect interfaceId expectedMac entry).1.seen = devices.seen ∧
      (devices.reconnect interfaceId expectedMac entry).1.phase = devices.phase := by
  unfold Devices.reconnect
  dsimp only
  split
  · exact ⟨rfl, rfl⟩
  · split
    · exact ⟨rfl, rfl⟩
    · split <;> exact ⟨rfl, rfl⟩

theorem reconnect_unrouted (interfaceId : UInt8) (expectedMac : Mac) (devices : Devices)
    (entry : UInt8 × UsbDevice) :
    (devices.reconnect interfaceId expectedMac entry).1.unrouted =
      if adopted interfaceId entry then devices.unrouted.erase (interfaceOf entry)
      else devices.unrouted := by
  obtain ⟨ident, device⟩ := entry
  unfold Devices.reconnect adopted UsbDevice.answersMac UsbDevice.hasRoute
  dsimp only
  by_cases same : ident = interfaceId
  · simp [same]
  · rw [if_neg same]
    cases queryMacWithRetryNusb device.queries with
    | error error => simp
    | ok mac =>
        cases nusbPeerAddress device.state with
        | error error => simp
        | ok peer => simp [same, Devices.publish, interfaceOf]

theorem reconnect_queried {interfaceId : UInt8} {expectedMac : Mac} {devices : Devices}
    {entry : UInt8 × UsbDevice} {info : DeviceInfo} {interface : UInt8}
    (queried : .queried info interface ∈
      (devices.reconnect interfaceId expectedMac entry).2) : entry.2.info = info := by
  unfold Devices.reconnect at queried
  dsimp only at queried
  split at queried
  · simp at queried
  · split at queried
    · simp at queried
      exact queried.1.symm
    · split at queried
      · by_cases changed : ‹Mac› ≠ expectedMac <;> simp [changed] at queried <;>
          exact queried.1.symm
      · by_cases changed : ‹Mac› ≠ expectedMac <;> simp [changed] at queried <;>
          exact queried.1.symm

theorem watcherPoll_frame (interfaceId : UInt8) (expectedMac : Mac)
    (registered : List (UInt8 × UsbDevice)) (devices : Devices) :
    (devices.watcherPoll interfaceId expectedMac registered).1.seen = devices.seen ∧
      (devices.watcherPoll interfaceId expectedMac registered).1.phase = devices.phase := by
  induction registered generalizing devices with
  | nil => exact ⟨rfl, rfl⟩
  | cons entry rest ih =>
      obtain ⟨seen, phase⟩ := reconnect_frame interfaceId expectedMac devices entry
      obtain ⟨restSeen, restPhase⟩ := ih (devices.reconnect interfaceId expectedMac entry).1
      exact ⟨restSeen.trans seen, restPhase.trans phase⟩

/-- The watcher takes the interfaces it adopts off the list; `kept` are those before them that it
has passed over. -/
theorem watcherPoll_unrouted (interfaceId : UInt8) (expectedMac : Mac)
    (registered : List (UInt8 × UsbDevice)) (devices : Devices)
    (kept : List (UInt8 × DeviceInfo))
    (before : devices.unrouted.Perm (kept ++ registered.map interfaceOf)) :
    (devices.watcherPoll interfaceId expectedMac registered).1.unrouted.Perm
      (kept ++ (registered.filter fun entry => !adopted interfaceId entry).map interfaceOf) := by
  induction registered generalizing devices kept with
  | nil => exact before
  | cons entry rest ih =>
      have after := reconnect_unrouted interfaceId expectedMac devices entry
      cases taken : adopted interfaceId entry with
      | true =>
          rw [List.filter_cons_of_neg (by simp [taken])]
          apply ih (devices.reconnect interfaceId expectedMac entry).1 kept
          rw [after, if_pos taken]
          have first : devices.unrouted.Perm (interfaceOf entry :: (kept ++ rest.map interfaceOf)) :=
            before.trans List.perm_middle
          simpa using first.erase (interfaceOf entry)
      | false =>
          rw [List.filter_cons_of_pos (by simp [taken]), List.map_cons]
          have passed := ih (devices.reconnect interfaceId expectedMac entry).1
            (kept ++ [interfaceOf entry]) (by simpa [after, taken] using before)
          rw [List.append_assoc, List.singleton_append] at passed
          exact passed

theorem watcherPoll_queried {interfaceId : UInt8} {expectedMac : Mac}
    {registered : List (UInt8 × UsbDevice)} {devices : Devices} {info : DeviceInfo}
    {interface : UInt8}
    (queried : .queried info interface ∈
      (devices.watcherPoll interfaceId expectedMac registered).2) :
    ∃ entry ∈ registered, entry.2.info = info := by
  induction registered generalizing devices with
  | nil => simp [Devices.watcherPoll] at queried
  | cons entry rest ih =>
      rcases List.mem_append.mp queried with here | later
      · exact ⟨entry, List.mem_cons_self, reconnect_queried here⟩
      · obtain ⟨other, member, same⟩ := ih later
        exact ⟨other, List.mem_cons_of_mem _ member, same⟩

theorem watcherPoll_unrouted_eq_nil_iff {devices : Devices} (routed : devices.unrouted = [])
    (listing : Listing) (interfaceId : UInt8) (expectedMac : Mac) :
    ((devices.reconcile listing).watcherPoll interfaceId expectedMac
        (reconcileAndRegisterDevices devices.seen listing).2).1.unrouted = [] ↔
      ∀ entry ∈ (reconcileAndRegisterDevices devices.seen listing).2,
        adopted interfaceId entry = true := by
  have left := watcherPoll_unrouted interfaceId expectedMac
    (reconcileAndRegisterDevices devices.seen listing).2 (devices.reconcile listing) []
    (by rw [reconcile_unrouted routed, List.nil_append])
  rw [List.nil_append] at left
  rw [← List.length_eq_zero_iff, left.length_eq, List.length_map, List.length_eq_zero_iff,
    List.filter_eq_nil_iff]
  simp

def AdoptedFirst (registered : List (UInt8 × UsbDevice)) (tap : Except IoError Unit) : Prop :=
  ∃ entry, registered.head? = some entry ∧ entry.2.answersMac = true ∧
    entry.2.hasRoute = true ∧ tap = .ok ()

theorem initialPoll_unrouted (devices : Devices) (tap : Except IoError Unit)
    (registered : List (UInt8 × UsbDevice))
    (before : devices.unrouted = registered.map interfaceOf) :
    (devices.initialPoll tap registered).1.unrouted = [] ↔
      registered = [] ∨ (AdoptedFirst registered tap ∧ registered.length = 1) := by
  match registered with
  | [] => simp [Devices.initialPoll, before]
  | (ident, device) :: rest =>
      simp only [AdoptedFirst, List.head?_cons, Option.some.injEq, exists_eq_left']
      unfold Devices.initialPoll UsbDevice.answersMac UsbDevice.hasRoute
      dsimp only
      cases queryMacWithRetryNusb device.queries with
      | error error => simp [before]
      | ok mac =>
          cases nusbPeerAddress device.state with
          | error error => simp [before]
          | ok peer =>
              cases tap with
              | error error => simp [before]
              | ok created => simp [before, Devices.publish, interfaceOf]

theorem initialPoll_returned (devices : Devices) (phase : devices.phase = .initial)
    (tap : Except IoError Unit) (registered : List (UInt8 × UsbDevice)) :
    (devices.initialPoll tap registered).1.phase.isReturned = true ↔
      ∃ entry, registered.head? = some entry ∧ entry.2.answersMac = true ∧
        ¬(entry.2.hasRoute = true ∧ tap = .ok ()) := by
  match registered with
  | [] => simp [Devices.initialPoll, phase, DevicesPhase.isReturned]
  | (ident, device) :: rest =>
      simp only [List.head?_cons, Option.some.injEq, exists_eq_left']
      unfold Devices.initialPoll UsbDevice.answersMac UsbDevice.hasRoute
      dsimp only
      cases queryMacWithRetryNusb device.queries with
      | error error => simp [phase, DevicesPhase.isReturned]
      | ok mac =>
          cases nusbPeerAddress device.state with
          | error error => simp [DevicesPhase.isReturned]
          | ok peer => cases tap <;> simp [DevicesPhase.isReturned]

def Devices.UnroutedSeen (devices : Devices) : Prop :=
  ∀ interface ∈ devices.unrouted, interface.2 ∈ devices.seen

theorem initialPoll_unrouted_subset (devices : Devices) (tap : Except IoError Unit)
    (registered : List (UInt8 × UsbDevice)) :
    (devices.initialPoll tap registered).1.unrouted ⊆ devices.unrouted := by
  unfold Devices.initialPoll
  split
  · exact List.Subset.refl _
  · dsimp only
    split
    · exact List.Subset.refl _
    · split
      · exact List.Subset.refl _
      · split
        · exact List.Subset.refl _
        · exact List.erase_subset

theorem watcherPoll_unrouted_subset (interfaceId : UInt8) (expectedMac : Mac)
    (registered : List (UInt8 × UsbDevice)) (devices : Devices) :
    (devices.watcherPoll interfaceId expectedMac registered).1.unrouted ⊆ devices.unrouted := by
  induction registered generalizing devices with
  | nil => exact List.Subset.refl _
  | cons entry rest ih =>
      refine List.Subset.trans (ih (devices.reconnect interfaceId expectedMac entry).1) ?_
      rw [reconnect_unrouted]
      split
      · exact List.erase_subset
      · exact List.Subset.refl _

theorem Devices.step_unroutedSeen {devices next : Devices} {event : DevicesEvent}
    {outputs : List DevicesOutput} (stepped : devices.step event = some (next, outputs))
    (unroutedSeen : devices.UnroutedSeen) : next.UnroutedSeen := by
  unfold Devices.step at stepped
  split at stepped
  case h_1 => contradiction
  case h_2 =>
      cases stepped
      exact unroutedSeen
  case h_3 listing tap phase =>
      have seen := initialPoll_seen (devices.reconcile listing) tap
        (reconcileAndRegisterDevices devices.seen listing).2
      have fewer := initialPoll_unrouted_subset (devices.reconcile listing) tap
        (reconcileAndRegisterDevices devices.seen listing).2
      rw [Option.some.inj stepped] at seen fewer
      intro interface member
      rw [show next.seen = _ from seen]
      exact mem_reconcile_unrouted (fewer member)
  case h_4 interfaceId expectedMac listing _ phase =>
      have seen := (watcherPoll_frame interfaceId expectedMac
        (reconcileAndRegisterDevices devices.seen listing).2 (devices.reconcile listing)).1
      have fewer := watcherPoll_unrouted_subset interfaceId expectedMac
        (reconcileAndRegisterDevices devices.seen listing).2 (devices.reconcile listing)
      rw [Option.some.inj stepped] at seen fewer
      intro interface member
      rw [show next.seen = _ from seen]
      exact mem_reconcile_unrouted (fewer member)

theorem initialPoll_adopts_iff {devices : Devices} {listing : Listing} {tap : Except IoError Unit}
    (phase : devices.phase = .initial) (routed : devices.unrouted = []) :
    devices.Adopts (.poll listing tap) ↔
      ((devices.reconcile listing).initialPoll tap
          (reconcileAndRegisterDevices devices.seen listing).2).1.phase.isReturned = true ∨
        ((devices.reconcile listing).initialPoll tap
          (reconcileAndRegisterDevices devices.seen listing).2).1.unrouted = [] := by
  rw [initialPoll_returned _ (show (devices.reconcile listing).phase = .initial from phase),
    initialPoll_unrouted _ _ _ (reconcile_unrouted routed listing)]
  simp only [Devices.Adopts, phase, AdoptedFirst]
  generalize (reconcileAndRegisterDevices devices.seen listing).2 = registered
  cases registered with
  | nil => simp
  | cons first rest =>
      simp only [List.head?_cons, Option.mem_some_iff, forall_eq', Option.some.injEq,
        exists_eq_left', List.cons.injEq, true_and, reduceCtorEq, false_or, List.length_cons,
        Nat.add_eq_right, List.length_eq_zero_iff]
      constructor
      · rintro ⟨answers, alone⟩
        by_cases created : first.2.hasRoute = true ∧ tap = .ok ()
        · exact .inr ⟨⟨answers, created⟩, alone created.1 created.2⟩
        · exact .inl ⟨answers, created⟩
      · rintro (⟨answers, failed⟩ | ⟨⟨answers, _⟩, alone⟩)
        · exact ⟨answers, fun route created => absurd ⟨route, created⟩ failed⟩
        · exact ⟨answers, fun _ _ => alone⟩

/-- A poll adopts what it registers exactly when it leaves no interface without route. -/
theorem Devices.step_adopts_iff {devices next : Devices} {event : DevicesEvent}
    {outputs : List DevicesOutput} (stepped : devices.step event = some (next, outputs))
    (routed : devices.unrouted = []) :
    devices.Adopts event ↔ next.phase.isReturned = true ∨ next.unrouted = [] := by
  unfold Devices.step at stepped
  split at stepped
  case h_1 => contradiction
  case h_2 =>
      cases stepped
      exact ⟨fun _ => .inl rfl, fun _ => trivial⟩
  case h_3 listing tap phase =>
      have adopts : devices.Adopts (.poll listing tap) ↔ _ := initialPoll_adopts_iff phase routed
      rw [Option.some.inj stepped] at adopts
      exact adopts
  case h_4 interfaceId expectedMac listing _ phase =>
      have left := watcherPoll_unrouted_eq_nil_iff routed listing interfaceId expectedMac
      have kept := (watcherPoll_frame interfaceId expectedMac
        (reconcileAndRegisterDevices devices.seen listing).2 (devices.reconcile listing)).2
      rw [Option.some.inj stepped] at left kept
      have stays : next.phase = .watching interfaceId expectedMac := kept.trans phase
      rw [left, stays]
      simp only [Devices.Adopts, phase, DevicesPhase.isReturned, Bool.false_eq_true, false_or]

/-! A seen device is not queried while it stays connected. -/

theorem Devices.step_unqueried {devices next : Devices} {poll : DevicesEvent}
    {outputs : List DevicesOutput} (stepped : devices.step poll = some (next, outputs))
    {info : DeviceInfo} (member : info ∈ devices.seen) (lists : poll.Lists info) :
    info ∈ next.seen ∧ ∀ interface, .queried info interface ∉ outputs := by
  have kept {listing : Listing} {tap : Except IoError Unit}
      (lists : (DevicesEvent.poll listing tap).Lists info) :
      info ∈ retainConnected listing devices.seen := by
    obtain ⟨connected, current, listed⟩ := lists
    refine mem_retainConnected.mpr ⟨member, fun other same => ?_⟩
    rw [current, Option.some.injEq] at same
    exact same ▸ listed
  -- A queried device was registered by this poll, so it was not seen before.
  have unregistered {listing : Listing} {tap : Except IoError Unit}
      (lists : (DevicesEvent.poll listing tap).Lists info)
      (registered : ∃ entry ∈ (reconcileAndRegisterDevices devices.seen listing).2,
        entry.2.info = info) : False := by
    obtain ⟨entry, present, rfl⟩ := registered
    exact registered_unseen present (kept lists)
  unfold Devices.step at stepped
  split at stepped
  case h_1 => contradiction
  case h_2 => exact lists.elim
  case h_3 listing tap phase =>
      have result := Option.some.inj stepped
      have seen := initialPoll_seen (devices.reconcile listing) tap
        (reconcileAndRegisterDevices devices.seen listing).2
      rw [result] at seen
      refine ⟨?_, fun interface queried => ?_⟩
      · rw [show next.seen = _ from seen, mem_reconcile_seen]
        exact .inl (kept lists)
      · have made : .queried info interface ∈ ((devices.reconcile listing).initialPoll tap
            (reconcileAndRegisterDevices devices.seen listing).2).2 := by
          rw [result]
          exact queried
        exact unregistered lists (initialPoll_queried made)
  case h_4 interfaceId expectedMac listing tap phase =>
      have result := Option.some.inj stepped
      have seen := (watcherPoll_frame interfaceId expectedMac
        (reconcileAndRegisterDevices devices.seen listing).2 (devices.reconcile listing)).1
      rw [result] at seen
      refine ⟨?_, fun interface queried => ?_⟩
      · rw [show next.seen = _ from seen, mem_reconcile_seen]
        exact .inl (kept lists)
      · have made : .queried info interface ∈ ((devices.reconcile listing).watcherPoll
            interfaceId expectedMac (reconcileAndRegisterDevices devices.seen listing).2).2 := by
          rw [result]
          exact queried
        exact unregistered lists (watcherPoll_queried made)

theorem Devices.run_unqueried {devices final : Devices} {polls : List DevicesEvent}
    {trace : List DevicesOutput} {info : DeviceInfo} (member : info ∈ devices.seen)
    (lists : ∀ poll ∈ polls, poll.Lists info)
    (ran : Machine.run Devices.step devices polls = some (final, trace)) :
    ∀ interface, .queried info interface ∉ trace := by
  have initially : info ∈ devices.seen ∧
      ∀ interface, DevicesOutput.queried info interface ∉ [] := ⟨member, by simp⟩
  have kept := Machine.run_invariant
    (fun (devices : Devices) past => info ∈ devices.seen ∧
      ∀ interface, .queried info interface ∉ past)
    (DevicesEvent.Lists info) ?_ lists initially ran
  · simpa using kept.2
  · rintro devices past poll next output lists ⟨seen, unqueried⟩ stepped
    obtain ⟨stays, silent⟩ := Devices.step_unqueried stepped seen lists
    refine ⟨stays, fun interface queried => ?_⟩
    rcases List.mem_append.mp queried with old | new
    · exact unqueried interface old
    · exact silent interface new

def listingOf (info : DeviceInfo) : Listing :=
  some [⟨info, [⟨0xFF, 0xCA, 0x7D, none⟩], .ok 0, fun _ => ⟨none, none⟩, none⟩]

theorem currentDeviceInfos_listingOf (info : DeviceInfo) :
    currentDeviceInfos (listingOf info) = some [info] := rfl

theorem Devices.run_listingOf {devices : Devices} {info : DeviceInfo}
    (inLoop : devices.phase.isReturned = false) (member : info ∈ devices.seen) (count : Nat) :
    ∃ final, Machine.run Devices.step devices
      (List.replicate count (.poll (listingOf info) (.ok ()))) = some (final, []) := by
  induction count generalizing devices with
  | zero => exact ⟨devices, rfl⟩
  | succ count ih =>
      have kept : info ∈ retainConnected (listingOf info) devices.seen := by
        refine mem_retainConnected.mpr ⟨member, fun connected current => ?_⟩
        rw [currentDeviceInfos_listingOf, Option.some.injEq] at current
        simp [← current]
      have nothingNew : reconcileAndRegisterDevices devices.seen (listingOf info) =
          (retainConnected (listingOf info) devices.seen, []) := by
        have unnew : findNewDevices (retainConnected (listingOf info) devices.seen)
            (listingOf info) = [] := by
          rw [findNewDevices, List.filter_eq_nil_iff]
          intro device present matched
          have same : device.info = info := by
            rw [List.mem_singleton.mp present]
          simp only [Bool.and_eq_true, decide_eq_true_eq] at matched
          exact matched.2 (same ▸ kept)
        rw [reconcileAndRegisterDevices, unnew]
        rfl
      have stepped : devices.step (.poll (listingOf info) (.ok ())) =
          some (devices.reconcile (listingOf info), []) := by
        cases phase : devices.phase with
        | initial =>
            simp only [Devices.step, phase, nothingNew]
            rfl
        | watching interfaceId expectedMac =>
            simp only [Devices.step, phase, nothingNew]
            rfl
        | returned result => simp [phase, DevicesPhase.isReturned] at inLoop
      have still : info ∈ (devices.reconcile (listingOf info)).seen :=
        mem_reconcile_seen.mpr (.inl kept)
      obtain ⟨final, ran⟩ := ih (show (devices.reconcile _).phase.isReturned = false from inLoop)
        still
      exact ⟨final, (Machine.run_cons_iff _ _ _ _ _).mpr ⟨_, _, _, stepped, ran, rfl⟩⟩

theorem Devices.not_requeried {devices : Devices} {interface : UInt8 × DeviceInfo}
    (inLoop : devices.phase.isReturned = false) (member : interface.2 ∈ devices.seen) :
    ¬devices.Requeried interface := by
  rintro ⟨count, requeried⟩
  obtain ⟨final, ran⟩ := Devices.run_listingOf inLoop member count
  have queried := requeried _ (by simp) (by
    intro poll present
    rw [(List.mem_replicate.mp present).2]
    exact ⟨[interface.2], rfl, by simp⟩) final [] ran
  simp at queried

theorem Devices.requeries_iff {devices : Devices} (unroutedSeen : devices.UnroutedSeen) :
    devices.Requeries ↔ devices.phase.isReturned = true ∨ devices.unrouted = [] := by
  constructor
  · intro requeries
    cases inLoop : devices.phase.isReturned with
    | true => exact .inl rfl
    | false =>
        refine .inr (List.eq_nil_iff_forall_not_mem.mpr fun interface member => ?_)
        have seen := unroutedSeen interface member
        exact Devices.not_requeried inLoop seen (requeries inLoop interface member seen)
  · rintro (ended | routed) inLoop interface member
    · rw [ended] at inLoop
      contradiction
    · simp [routed] at member

theorem Devices.run_unroutedSeen {events : List DevicesEvent} {devices : Devices}
    {trace : List DevicesOutput}
    (ran : Machine.run Devices.step Devices.start events = some (devices, trace)) :
    devices.UnroutedSeen :=
  Machine.run_obeying Devices.UnroutedSeen
    (fun _ _ _ _ unroutedSeen (_ : True) stepped => Devices.step_unroutedSeen stepped unroutedSeen)
    (by simp [Devices.UnroutedSeen, Devices.start]) (fun _ _ _ _ _ _ => trivial) ran

theorem Devices.Adopts.of_returned {devices : Devices} (ended : devices.phase.isReturned = true)
    (event : DevicesEvent) : devices.Adopts event := by
  cases phase : devices.phase with
  | returned result => cases event <;> simp [Devices.Adopts, phase]
  | initial | watching => simp [phase, DevicesPhase.isReturned] at ended

theorem Devices.step_of_running {devices : Devices} (inLoop : devices.phase.isReturned = false)
    (event : DevicesEvent) : ∃ next outputs, devices.step event = some (next, outputs) := by
  cases phase : devices.phase with
  | returned result => simp [phase, DevicesPhase.isReturned] at inLoop
  | initial | watching => cases event <;> exact ⟨_, _, by simp only [Devices.step, phase]; rfl⟩

def sampleDeviceInfo : DeviceInfo := ⟨some "C0FFEE", none, some "ergot"⟩

def sampleDevice (ident : UInt8) (answer : Option (Except ReqRespError Mac)) : UsbDevice :=
  ⟨sampleDeviceInfo, [⟨0xFF, 0xCA, 0x7D, some "ergot"⟩], .ok ident,
    fun _ => ⟨some (.active 1 1), answer⟩, some (.active 1 1)⟩

def sampleSlowPoll : DevicesEvent := .poll (some [sampleDevice 0 none]) (.ok ())

/-- Of two boards with the same info the initial loop takes the first and passes over the other. -/
example :
    (Machine.run Devices.step Devices.start
      [.poll (some [sampleDevice 0 (some (.ok (.replicate 6 2))),
        sampleDevice 1 (some (.ok (.replicate 6 3)))]) (.ok ())]).map (·.1.unrouted) =
      some [(1, sampleDeviceInfo)] := by
  decide +kernel

end Lamella
