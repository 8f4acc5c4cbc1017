import Mctpd.Daemon
import Mctpd.Fleet.Pool

/-!
# The binding's constructor, and the pool it leaves

`MctpBinding`'s constructor reads its configuration, an SMBus or a PCIe one
(any other alternative of the variant throws `invalid_argument`). From either
it takes the retry settings of the control transactions; only an SMBus
configuration in bus-owner mode has its EID pool added to `eidPoolMap`, which
is `static`, shared by every binding of the process. It then creates the
binding's UUID from the machine ID for the daemon, and registers the D-Bus
interface, whose `initialize()` may fail. The pool is extended before either
can throw.

The daemon a binding starts takes its events with the binding's retry
settings, on the pool the constructor left (`Mctpd.Daemon`).

* `mctpBinding_spec`: the pool after construction is the shared pool with the
  EIDs of an SMBus bus owner added, whether or not the constructor throws; it
  builds a binding exactly when the configuration is SMBus or PCIe, there is a
  machine ID and the interface initializes, and never throws `bad_address`;
* `configured_eids`: over every interleaving of the daemon of a new process
  whose peers confirm the EID they are asked to take, the pool's EIDs stay
  those configured; every run waiting on Set Endpoint ID asks for one of them,
  and the EIDs confirmed are distinct and among them, so that no more
  endpoints get an EID than the pool holds;
* `unowned_pool_never_assigns`: on a binding whose configuration adds no EID
  (a PCIe one, or an SMBus one not in bus-owner mode), the pool stays empty,
  no run ever sends Set Endpoint ID, and only endpoints that report an EID of
  their own are published.
-/

namespace Mctpd

/-- Modelled from the spec: `SMBusConfiguration`, declared outside the
    sources; the fields the constructor reads, but for those it only publishes
    on D-Bus (`defaultEid`, `bindingType`, `mediumId`). -/
structure SMBusConfiguration where
  mode : BindingModeTypes
  reqToRespTime : UInt32
  reqRetryCount : UInt8
  eidPool : List UInt8
  deriving DecidableEq, Repr

/-- Modelled from the spec: `PcieConfiguration`, declared outside the sources;
    the fields the constructor reads, but for those it only publishes on D-Bus
    (`defaultEid`, `bindingType`, `mediumId`, `mode`). -/
structure PcieConfiguration where
  reqToRespTime : UInt32
  reqRetryCount : UInt8
  deriving DecidableEq, Repr

/-- Modelled from the spec: `ConfigurationVariant`, declared outside the
    sources: an SMBus or a PCIe configuration, or neither. -/
inductive ConfigurationVariant
  | monostate
  | smbus (smbusConf : SMBusConfiguration)
  | pcie (pcieConf : PcieConfiguration)
  deriving DecidableEq, Repr

/-- The `std::errc` codes the constructor throws. -/
inductive Errc
  | invalidArgument
  | addressNotAvailable
  | badAddress
  | functionNotSupported
  deriving DecidableEq, Repr

/-- `sd_id128_t`: sixteen bytes. -/
structure Id128 where
  bytes : List UInt8
  length_bytes : bytes.length = 16
  deriving DecidableEq

/-- The members of `MctpBinding` its constructor sets, but for those it only
    publishes on D-Bus: the retry settings of the control transactions, and
    the UUID. -/
structure MctpBinding where
  ctrlTxRetryDelay : UInt32
  ctrlTxRetryCount : UInt8
  uuid : List UInt8
  deriving DecidableEq, Repr

/-- The retry settings, as the transaction engine reads them. -/
def MctpBinding.config (b : MctpBinding) : Config := ⟨b.ctrlTxRetryCount, b.ctrlTxRetryDelay⟩

/-- `createUuid()`: `sd_id128_get_machine_app_specific` gives the machine ID
    for the daemon, or fails (`none`) and `address_not_available` is thrown;
    the ID's bytes are inserted at the front of `uuid`, which must then hold
    sixteen bytes, or `bad_address` is thrown. -/
def createUuid (uuid : List UInt8) : Option Id128 → Except Errc (List UInt8)
  | none => .error .addressNotAvailable
  | some id =>
    let uuid := id.bytes ++ uuid
    if uuid.length ≠ 16 then .error .badAddress else .ok uuid

/-- `MctpBinding(objServer, objPath, conf, ioc)` on the shared `eidPoolMap`,
    iterated in the order `ord`, the machine ID being `id` and
    `mctpInterface->initialize()` succeeding when `initialized`: the shared
    pool after it, and the binding or what it throws.
    It takes the retry settings from an SMBus or a PCIe configuration, adds the
    EID pool of an SMBus one in bus-owner mode to `eidPoolMap`, and throws
    `invalid_argument` on anything else; it then creates the UUID, on the empty
    `uuid` of a new binding, and registers the D-Bus interface. -/
def mctpBinding (ord : InsertOrder) (conf : ConfigurationVariant) (id : Option Id128)
    (initialized : Bool) (eidPoolMap : EidPool) : EidPool × Except Errc MctpBinding :=
  let created (ctrlTxRetryDelay : UInt32) (ctrlTxRetryCount : UInt8) : Except Errc MctpBinding :=
    match createUuid [] id with
    | .error e => .error e
    | .ok uuid =>
      if initialized then .ok ⟨ctrlTxRetryDelay, ctrlTxRetryCount, uuid⟩
      else .error .functionNotSupported
  match conf with
  | .smbus smbusConf =>
    (if smbusConf.mode = .busOwner then initializeEidPool ord smbusConf.eidPool eidPoolMap
      else eidPoolMap, created smbusConf.reqToRespTime smbusConf.reqRetryCount)
  | .pcie pcieConf => (eidPoolMap, created pcieConf.reqToRespTime pcieConf.reqRetryCount)
  | .monostate => (eidPoolMap, .error .invalidArgument)

/-- The EIDs a configuration has added to the pool: those of an SMBus
    configuration in bus-owner mode, and none otherwise. -/
def ConfigurationVariant.busOwnerPool : ConfigurationVariant → List UInt8
  | .smbus smbusConf => if smbusConf.mode = .busOwner then smbusConf.eidPool else []
  | _ => []

/-! ## The constructor -/

/-- On the empty `uuid` of a new binding, `createUuid` returns the sixteen
    bytes of the machine ID, if there is one. -/
theorem createUuid_nil (id : Option Id128) :
    createUuid [] id = match id with
      | none => .error .addressNotAvailable
      | some id => .ok id.bytes := by
  cases id with
  | none => rfl
  | some id => simp [createUuid, id.length_bytes]

theorem mctpBinding_pool (ord : InsertOrder) (conf : ConfigurationVariant) (id : Option Id128)
    (initialized : Bool) (eidPoolMap : EidPool) :
    (mctpBinding ord conf id initialized eidPoolMap).1 =
      initializeEidPool ord conf.busOwnerPool eidPoolMap := by
  cases conf with
  | smbus smbusConf =>
    simp only [mctpBinding, ConfigurationVariant.busOwnerPool]
    split <;> rfl
  | _ => rfl

/-- The constructor, for every configuration, machine ID and outcome of the
    D-Bus registration, on the shared pool in any state: the pool after it is
    the shared pool with the EIDs of an SMBus bus owner's configuration added,
    whether or not it goes on to throw; it builds a binding exactly when the
    configuration is SMBus or PCIe, there is a machine ID and the interface
    initializes, the binding's UUID being the ID's bytes; it throws
    `invalid_argument` exactly on a configuration of neither kind, and never
    throws `bad_address`. -/
theorem mctpBinding_spec (ord : InsertOrder) (conf : ConfigurationVariant) (id : Option Id128)
    (initialized : Bool) (eidPoolMap : EidPool) :
    (mctpBinding ord conf id initialized eidPoolMap).1 =
        initializeEidPool ord conf.busOwnerPool eidPoolMap ∧
      ((∃ b, (mctpBinding ord conf id initialized eidPoolMap).2 = .ok b) ↔
        conf ≠ .monostate ∧ id.isSome ∧ initialized = true) ∧
      (∀ b, (mctpBinding ord conf id initialized eidPoolMap).2 = .ok b →
        id.map Id128.bytes = some b.uuid) ∧
      ((mctpBinding ord conf id initialized eidPoolMap).2 = .error .invalidArgument ↔
        conf = .monostate) ∧
      (mctpBinding ord conf id initialized eidPoolMap).2 ≠ .error .badAddress := by
  refine ⟨mctpBinding_pool ord conf id initialized eidPoolMap, ?_⟩
  cases conf <;> cases id <;> cases initialized <;>
    simp [mctpBinding, createUuid_nil, eq_comm]

/-! ## The pool's EIDs over every interleaving -/

/-- The fleet of a daemon started on the pool the constructor left, and its
    pool's EIDs: those of the shared pool before and those configured. -/
theorem daemon_fleet_keys (cfg : Config) (ord : InsertOrder) (conf : ConfigurationVariant) (id : Option Id128)
    (initialized : Bool) (eidPoolMap : EidPool) {d : Daemon}
    (hd : Relation.ReflTransGen (Daemon.Step cfg)
      (Daemon.init (mctpBinding ord conf id initialized eidPoolMap).1) d) :
    d.fleet.Inv ∧ ∀ e, e ∈ d.fleet.pool.keys ↔ e ∈ eidPoolMap.keys ∨ e ∈ conf.busOwnerPool := by
  have hf := Daemon.fleet_steps hd
  refine ⟨(Fleet.inv_init _).steps hf, fun e => ?_⟩
  rw [Fleet.keys_steps (hf.mono fun _ _ => Fleet.Step.move)]
  exact (mctpBinding_pool ord conf id initialized eidPoolMap).symm ▸
    mem_keys_initializeEidPool ord conf.busOwnerPool eidPoolMap e

/-- Over every interleaving of the daemon of a new process (the shared pool
    empty before its binding), whatever the retry settings and the pool's
    iteration order, its peers confirming in a successful Set Endpoint ID
    response the EID they were asked to take (as `Daemon.Step` has them): the
    pool's EIDs stay those configured; every run waiting on Set Endpoint ID
    asks an endpoint to take one of them; and the EIDs confirmed are distinct
    and among them, so that no more endpoints get an EID through Set Endpoint
    ID than the configuration lists distinct EIDs. -/
theorem configured_eids (cfg : Config) (ord : InsertOrder) (conf : ConfigurationVariant) (id : Option Id128)
    (initialized : Bool) {d : Daemon}
    (hd : Relation.ReflTransGen (Daemon.Step cfg)
      (Daemon.init (mctpBinding ord conf id initialized EidPool.empty).1) d) :
    (∀ e, e ∈ d.fleet.pool.keys ↔ e ∈ conf.busOwnerPool) ∧
      (∀ i g u eid, d.fleet.runs i = .setEid g u eid → eid ∈ conf.busOwnerPool) ∧
      (d.fleet.confirmed.map Prod.snd).Nodup ∧
      (∀ p ∈ d.fleet.confirmed, p.2 ∈ conf.busOwnerPool) ∧
      d.fleet.confirmed.length ≤ conf.busOwnerPool.dedup.length := by
  obtain ⟨hi, hk⟩ := daemon_fleet_keys cfg ord conf id initialized EidPool.empty hd
  have hkeys : ∀ e, e ∈ d.fleet.pool.keys ↔ e ∈ conf.busOwnerPool := fun e => by
    simpa [EidPool.empty, EidPool.keys] using hk e
  have hconf : ∀ p ∈ d.fleet.confirmed, p.2 ∈ conf.busOwnerPool := fun p hp =>
    (hkeys _).1 (hi.confirmed_key hp)
  refine ⟨hkeys, fun i g u eid h => (hkeys eid).1 (hi.setEid_key h), hi.confirmed_nodup, hconf, ?_⟩
  -- distinct confirmed EIDs, all configured: no more than the configured EIDs
  have hsub : d.fleet.confirmed.map Prod.snd ⊆ conf.busOwnerPool.dedup := fun e he => by
    obtain ⟨p, hp, rfl⟩ := List.mem_map.1 he
    exact List.mem_dedup.2 (hconf p hp)
  simpa using (List.subperm_of_subset hi.confirmed_nodup hsub).length_le

/-- A bus owner on the pool `{1, 2}` of its SMBus configuration. -/
def smbusBusOwner : ConfigurationVariant := .smbus ⟨.busOwner, 10, 2, [1, 2]⟩

/-- The machine ID of the examples. -/
def machineId : Id128 := ⟨List.replicate 16 0x11, rfl⟩

/-- The daemon of an SMBus bus owner, once it has registered an endpoint. -/
def smbusFirstRequest : Daemon :=
  (Daemon.init (mctpBinding .front smbusBusOwner (some machineId) true EidPool.empty).1
    ).registerEndpoint ⟨2, 10⟩ [] true

theorem configured_eids_first_request :
    Relation.ReflTransGen (Daemon.Step ⟨2, 10⟩)
        (Daemon.init (mctpBinding .front smbusBusOwner (some machineId) true EidPool.empty).1)
        smbusFirstRequest ∧
      (∀ e, e ∈ smbusFirstRequest.fleet.pool.keys ↔ e ∈ smbusBusOwner.busOwnerPool) ∧
      (∀ i g u eid, smbusFirstRequest.fleet.runs i = .setEid g u eid →
        eid ∈ smbusBusOwner.busOwnerPool) ∧
      (smbusFirstRequest.fleet.confirmed.map Prod.snd).Nodup ∧
      (∀ p ∈ smbusFirstRequest.fleet.confirmed, p.2 ∈ smbusBusOwner.busOwnerPool) ∧
      smbusFirstRequest.fleet.confirmed.length ≤ smbusBusOwner.busOwnerPool.dedup.length :=
  have hd : Relation.ReflTransGen (Daemon.Step ⟨2, 10⟩)
      (Daemon.init (mctpBinding .front smbusBusOwner (some machineId) true EidPool.empty).1)
      smbusFirstRequest := .single (.registerEndpoint _ [] true)
  ⟨hd, configured_eids _ _ _ _ _ hd⟩

/-- On a binding whose configuration adds no EID to the pool of a new process
    (a PCIe configuration, or an SMBus one not in bus-owner mode), over every
    interleaving of its daemon: the pool stays empty, no run ever waits on Set
    Endpoint ID, no EID is confirmed, and every endpoint published reported an
    EID of its own, so that an endpoint that reports none is never
    published. -/
theorem unowned_pool_never_assigns (cfg : Config) (ord : InsertOrder) {conf : ConfigurationVariant}
    (hconf : conf.busOwnerPool = []) (id : Option Id128) (initialized : Bool) {d : Daemon}
    (hd : Relation.ReflTransGen (Daemon.Step cfg)
      (Daemon.init (mctpBinding ord conf id initialized EidPool.empty).1) d) :
    d.fleet.pool = EidPool.empty ∧ (∀ i g u eid, d.fleet.runs i ≠ .setEid g u eid) ∧
      d.fleet.confirmed = [] ∧ ∀ p ∈ d.fleet.published, p.2.1 = false := by
  obtain ⟨hi, hk⟩ := daemon_fleet_keys cfg ord conf id initialized EidPool.empty hd
  have hnil : d.fleet.pool.keys = [] := List.eq_nil_iff_forall_not_mem.2 fun e he => by
    simpa [hconf, EidPool.empty, EidPool.keys] using (hk e).1 he
  have hconfirmed : d.fleet.confirmed = [] :=
    List.eq_nil_iff_forall_not_mem.2 fun p hp => by simpa [hnil] using hi.confirmed_key hp
  refine ⟨EidPool.ext (List.map_eq_nil_iff.1 hnil), fun i g u eid h => ?_, hconfirmed,
    fun p hp => ?_⟩
  · simpa [hnil] using hi.setEid_key h
  · -- a record published through Set Endpoint ID would carry a confirmed EID
    cases hv : p.2.1
    · rfl
    · simpa [hconfirmed] using hi.published_via p hp hv

/-- A PCIe bus owner, once it has registered an endpoint. -/
def pcieFirstRequest : Daemon :=
  (Daemon.init (mctpBinding .front (.pcie ⟨10, 2⟩) (some machineId) true EidPool.empty).1
    ).registerEndpoint ⟨2, 10⟩ [] true

theorem unowned_pool_never_assigns_pcie :
    ConfigurationVariant.busOwnerPool (.pcie ⟨10, 2⟩) = [] ∧
      Relation.ReflTransGen (Daemon.Step ⟨2, 10⟩)
        (Daemon.init (mctpBinding .front (.pcie ⟨10, 2⟩) (some machineId) true EidPool.empty).1)
        pcieFirstRequest ∧
      pcieFirstRequest.fleet.pool = EidPool.empty ∧
      (∀ i g u eid, pcieFirstRequest.fleet.runs i ≠ .setEid g u eid) ∧
      pcieFirstRequest.fleet.confirmed = [] ∧
      ∀ p ∈ pcieFirstRequest.fleet.published, p.2.1 = false :=
  have hd : Relation.ReflTransGen (Daemon.Step ⟨2, 10⟩)
      (Daemon.init (mctpBinding .front (.pcie ⟨10, 2⟩) (some machineId) true EidPool.empty).1)
      pcieFirstRequest := .single (.registerEndpoint _ [] true)
  have hconf : ConfigurationVariant.busOwnerPool (.pcie ⟨10, 2⟩) = [] := rfl
  ⟨hconf, hd, unowned_pool_never_assigns _ _ hconf _ _ hd⟩

end Mctpd
