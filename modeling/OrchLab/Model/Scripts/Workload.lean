import OrchLab.Model.Scripts.Injectors
import OrchLab.Model.System
import OrchLab.Storage.Dict
import OrchLab.ToMathlib.RoundHalfEven
import Mathlib.Data.Rat.Floor

/-! # The load of a scenario

`shared/catalog.py` and `scripts/workload/generate_load.py`. The plan is fixed before the load starts: the first
orders of the dataset, each with its offset, and within the window of `inconsistent_data` some of them with an
unknown item. The generator sends it in open loop, a thread for each order, and does not wait for one answer to send
the next. Offsets are exact rational numbers, where the code rounds them as floats; the draw of `sampled` is given.
-/

namespace OrchLab

/-! ## Files -/

/-- An order of the dataset; an item is a dictionary. -/
structure DatasetOrder where
  index : ℕ
  items : List (Dict String Json)

structure RawDataset where
  datasetId : String
  seed : ℤ
  orders : List DatasetOrder

/-- A dataset with the indexes `1..N`. -/
structure Dataset extends RawDataset where
  indexed : orders.map DatasetOrder.index = List.range' 1 orders.length

/-- The workload of a configuration. -/
structure WorkloadSection where
  dataset : String
  requests : Option ℕ
  ratePerSecond : Option ℚ
  seed : Option ℤ
  requestsPositive : ∀ requests' ∈ requests, 0 < requests'
  ratePositive : ∀ rate ∈ ratePerSecond, 0 < rate

/-- The two files a load reads, with their paths. -/
structure WorkloadFiles where
  dataset : RawDataset
  datasetPath : String
  skus : List String
  catalogPath : String

/-- What `build_plan` raises: its own errors and those of the two readers, and an order whose first item is
missing or has no SKU. -/
inductive PlanError where
  | workloadRequired
  | datasetIndexes (path : String)
  | wrongSeed (seed found : ℤ)
  | tooFewOrders (held requested : ℕ)
  | catalogNotDistinct (path : String)
  | unknownSkuInCatalog
  | noFirstItem
  | noSku
deriving DecidableEq, Repr

/-- `UNKNOWN_SKU`, outside the catalog. -/
def unknownSku : String := "SKU-999"

/-- `MAX_IN_FLIGHT`, the threads of the pool. -/
def maxInFlight : ℕ := 256

def PlanError.text : PlanError → String
  | .workloadRequired => "workload.requests and workload.rate_per_second are required"
  | .datasetIndexes path => "dataset order indexes must be 1..N: " ++ path
  | .wrongSeed seed found => "workload.seed " ++ toString seed ++ " != dataset seed " ++ toString found
  | .tooFewOrders held requested =>
    "dataset has " ++ toString held ++ " orders, " ++ toString requested ++ " requested"
  | .catalogNotDistinct path => "catalog must list distinct SKUs: " ++ path
  | .unknownSkuInCatalog => unknownSku ++ " must not be in the catalog"
  | .noFirstItem => "tuple index out of range"
  | .noSku => "'sku'"

/-- `load_catalog`. -/
def loadCatalog (files : WorkloadFiles) : Except PlanError (List String) :=
  if files.skus = [] ∨ ¬files.skus.Nodup then .error (.catalogNotDistinct files.catalogPath) else .ok files.skus

/-- `load_dataset`. -/
def loadDataset (files : WorkloadFiles) : Except PlanError Dataset :=
  if indexed : files.dataset.orders.map DatasetOrder.index = List.range' 1 files.dataset.orders.length then
    .ok ⟨files.dataset, indexed⟩
  else .error (.datasetIndexes files.datasetPath)

/-! ## The plan -/

/-- An order of the plan; without a replaced SKU the field is `None`. -/
structure PlannedOrder where
  index : ℕ
  offsetS : ℚ
  items : List (Dict String Json)
  replacedSku : Json

/-- `replaced_sku is not None`. -/
def PlannedOrder.inconsistent (planned : PlannedOrder) : Bool :=
  match planned.replacedSku with
  | .null => false
  | _ => true

/-- `round(offset, 6)`, of the exact offset. -/
def round6 (offset : ℚ) : ℚ := roundHalfEven (offset * 1000000) / 1000000

/-- `in_window`, over exact numbers: the end of the window is the sum itself and not the float next to it. -/
def inWindow (fault : RawFaultSection) (offsetS : ℚ) : Bool :=
  match fault.startAfterSeconds, fault.durationSeconds with
  | some start, some duration => start ≤ offsetS ∧ offsetS < start + duration
  | _, _ => false

/-- The rate after an order sent at the offset; an accepted section of `overload` has a rate. -/
def rateAt (fault : RawFaultSection) (rate offsetS : ℚ) : ℚ :=
  if fault.type = .overload ∧ inWindow fault offsetS then fault.overloadRatePerSecond.getD rate else rate

/-- The loop of `send_offsets`, from an offset that is not rounded yet. -/
def offsetsFrom (fault : RawFaultSection) (rate : ℚ) : ℕ → ℚ → List ℚ
  | 0, _ => []
  | count + 1, offset =>
    round6 offset :: offsetsFrom fault rate count (round6 offset + 1 / rateAt fault rate (round6 offset))

/-- `send_offsets`, over exact numbers. -/
def sendOffsets (fault : RawFaultSection) (requests : ℕ) (rate : ℚ) : List ℚ := offsetsFrom fault rate requests 0

/-- `sampled(seed, "order", index, probability=...)`. -/
abbrev OrderSampling := ℤ → ℕ → ℚ → Bool

/-- The order is altered: its offset is in the window of `inconsistent_data` and the draw takes it. An accepted
section of that type has a seed and a probability. -/
def altered (sampled : OrderSampling) (fault : RawFaultSection) (index : ℕ) (offsetS : ℚ) : Bool :=
  match fault.seed, fault.failureProbability with
  | some seed, some probability =>
    fault.type = .inconsistentData && inWindow fault offsetS && sampled seed index probability
  | _, _ => false

/-- One order of the plan: the first item of an altered one gets the unknown SKU. -/
def planOrder (sampled : OrderSampling) (fault : RawFaultSection) (order : DatasetOrder) (offsetS : ℚ) :
    Except PlanError PlannedOrder :=
  if altered sampled fault order.index offsetS then
    match order.items with
    | [] => .error .noFirstItem
    | first :: rest =>
      match first.get? "sku" with
      | none => .error .noSku
      | some replaced => .ok ⟨order.index, offsetS, first.set "sku" (.string unknownSku) :: rest, replaced⟩
  else .ok ⟨order.index, offsetS, order.items, .null⟩

/-- A check of `build_plan`. -/
def require (condition : Prop) [Decidable condition] (error : PlanError) : Except PlanError Unit :=
  if condition then .ok () else .error error

/-- The seed of the workload, if there is one, is that of the dataset. -/
def requireSeed (dataset : Dataset) : Option ℤ → Except PlanError Unit
  | none => .ok ()
  | some seed => require (seed = dataset.seed) (.wrongSeed seed dataset.seed)

/-- `build_plan`. -/
def buildPlan (sampled : OrderSampling) (workload : WorkloadSection) (fault : RawFaultSection)
    (files : WorkloadFiles) : Except PlanError (List PlannedOrder) :=
  match workload.requests, workload.ratePerSecond with
  | some requests, some rate => do
    let dataset ← loadDataset files
    requireSeed dataset workload.seed
    require (requests ≤ dataset.orders.length) (.tooFewOrders dataset.orders.length requests)
    let catalog ← loadCatalog files
    require (unknownSku ∉ catalog) .unknownSkuInCatalog
    (dataset.orders.zip (sendOffsets fault requests rate)).mapM fun pair =>
      planOrder sampled fault pair.1 pair.2
  | _, _ => .error .workloadRequired

/-! ## Requests and answers -/

/-- The body of a request. -/
def PlannedOrder.body (planned : PlannedOrder) : List (String × Json) :=
  [("items", .array (planned.items.map fun item => .object item.rows))]

/-- The validation of a body by `POST /orders`. -/
def CreateOrderRequest.modelValidate? (fields : List (String × Json)) : Option CreateOrderRequest :=
  match field? fields "items" with
  | some (.array items) =>
    if noOther ["items"] fields then
      (items.mapM OrderItem.modelValidate?).bind fun items =>
        if accepted : items ≠ [] ∧ ∀ item ∈ items, item.valid = true then
          some ⟨items, accepted.1, accepted.2⟩
        else none
    else none
  | _ => none

/-- The order the orders-service makes of a planned one, if it accepts the body. -/
def PlannedOrder.request? (planned : PlannedOrder) : Option CreateOrderRequest :=
  CreateOrderRequest.modelValidate? planned.body

/-- How far a request has come in the orders-service. -/
inductive Arrival where
  | onItsWay
  | lost
  | rejected
  | created (task : TaskId)
deriving DecidableEq, Repr

/-- The task an arrived request was given. -/
def Arrival.task? : Arrival → Option TaskId
  | .created task => some task
  | _ => none

/-- How `urlopen` ends: the answer with status 202, an `HTTPError` or an `OSError`. -/
inductive PostReply where
  | accepted
  | httpError (code : ℕ) (reason : String)
  | osError (text : String)
deriving DecidableEq, Repr

/-- Where `_send` is: it waits for the answer, it has written its line and has a fault to note, or it is over, by an
error or not. -/
inductive PostStage where
  | waiting
  | recorded (reply : PostReply)
  | closed (raised : Bool)
deriving DecidableEq, Repr

/-- After its line an altered order has a fault to note. -/
def PlannedOrder.stageAfter (planned : PlannedOrder) (reply : PostReply) : PostStage :=
  if planned.inconsistent then .recorded reply else .closed false

/-- A request some thread has sent. -/
structure Post where
  planned : PlannedOrder
  arrival : Arrival
  stage : PostStage

/-- A line of `workload.jsonl`. -/
structure WorkloadRecord where
  timestamp : Timestamp
  orderIndex : ℕ
  scheduledOffsetS : ℚ
  actualOffsetS : ℚ
  orderId : Option OrderId
  taskId : Option TaskId
  httpStatus : Option ℕ
  responseMs : ℚ
  error : Option String
  inconsistent : Bool

/-- A `FAULT_APPLIED` of the generator; its `effect` names the replaced SKU and the unknown one. -/
structure AlteredOrderRecord where
  executionId : String
  orderIndex : ℕ
  orderId : Option OrderId
  taskId : Option TaskId
  replacedSku : Json
  seed : Option ℤ

/-- What a thread reads from the clock. -/
structure PostClock where
  sentAt : Timestamp
  actualOffsetS : ℚ
  responseMs : ℚ

namespace Post

variable (post : Post)

/-- The thread is over. -/
def ended : Bool :=
  match post.stage with
  | .closed _ => true
  | _ => false

/-- `response.get("task_id")`; without an answer of the service the response is empty. -/
def answered? : PostReply → Option TaskId
  | .accepted => post.arrival.task?
  | _ => none

def workloadRecord (reply : PostReply) (clock : PostClock) : WorkloadRecord where
  timestamp := clock.sentAt
  orderIndex := post.planned.index
  scheduledOffsetS := post.planned.offsetS
  actualOffsetS := clock.actualOffsetS
  orderId := post.answered? reply
  taskId := post.answered? reply
  httpStatus :=
    match reply with
    | .accepted => some 202
    | .httpError code _ => some code
    | _ => none
  responseMs := clock.responseMs
  error :=
    match reply with
    | .httpError _ text | .osError text => some text
    | _ => none
  inconsistent := post.planned.inconsistent

def alteredRecord (executionId : String) (fault : RawFaultSection) (reply : PostReply) : AlteredOrderRecord :=
  ⟨executionId, post.planned.index, post.answered? reply, post.answered? reply, post.planned.replacedSku, fault.seed⟩

end Post

/-! ## The load -/

/-- The two services under load: what is still to be sent, what was sent, and the two files of the generator. -/
structure LoadBench where
  system : System
  unsent : List PlannedOrder
  posts : List Post
  records : List WorkloadRecord
  faultEvents : List AlteredOrderRecord

/-- `finish` ends the wait for an answer and `noteFault` writes the fault after it; each may raise instead. -/
inductive LoadLabel where
  | system (label : SystemLabel)
  | send
  | arrive (post : ℕ) (now : Timestamp)
  | lose (post : ℕ)
  | finish (post : ℕ) (reply : PostReply) (clock : PostClock) (raises : Bool)
  | noteFault (post : ℕ) (raises : Bool)

/-- Only the generator creates orders while it runs, and `before_reservation` injects transient errors only. -/
def SystemLabel.underLoad : SystemLabel → Bool
  | .createOrder .. => false
  | .reserve _ _ injected => injected ≠ some .invalidData
  | _ => true

namespace LoadBench

def initial (stock : List String) (plan : List PlannedOrder) : LoadBench := ⟨.initial stock, plan, [], [], []⟩

variable (s : LoadBench)

/-- A thread of the pool takes the next order. -/
def send : Option LoadBench :=
  match s.unsent with
  | [] => none
  | planned :: unsent =>
    if s.posts.countP (fun post => !post.ended) < maxInFlight then
      some { s with unsent, posts := s.posts ++ [⟨planned, .onItsWay, .waiting⟩] }
    else none

/-- The service takes a body and creates the order, or answers 422; its task is the next one. -/
def arrive (deployment : Deployment) (position : ℕ) (now : Timestamp) : Option LoadBench :=
  match s.posts[position]? with
  | some ⟨planned, .onItsWay, stage⟩ =>
    match planned.request? with
    | none => some { s with posts := s.posts.set position ⟨planned, .rejected, stage⟩ }
    | some request =>
      (s.system.step deployment (.createOrder request now)).map fun system =>
        { s with
          system
          posts := s.posts.set position ⟨planned, .created s.system.service.db.nextOrderNumber, stage⟩ }
  | _ => none

/-- The request does not reach the service. -/
def lose (position : ℕ) : Option LoadBench :=
  match s.posts[position]? with
  | some ⟨planned, .onItsWay, stage⟩ => some { s with posts := s.posts.set position ⟨planned, .lost, stage⟩ }
  | _ => none

/-- What a thread can be told: the 202 of an order whose first decision point is over, well or by an error, an error
status at any time, or an error of the connection. -/
def tells (post : Post) : PostReply → Bool
  | .accepted => post.arrival.task?.any fun task => s.system.service.points (.api task) = .closed
  | .httpError code _ => code < 200 || 300 ≤ code
  | .osError _ => true

/-- The answer is there and its line is written, or something else is raised. -/
def finish (position : ℕ) (reply : PostReply) (clock : PostClock) (raises : Bool) : Option LoadBench :=
  match s.posts[position]? with
  | some ⟨planned, arrival, .waiting⟩ =>
    let post : Post := ⟨planned, arrival, .waiting⟩
    if raises then some { s with posts := s.posts.set position ⟨planned, arrival, .closed true⟩ }
    else if s.tells post reply then
      some { s with
        posts := s.posts.set position ⟨planned, arrival, planned.stageAfter reply⟩
        records := s.records ++ [post.workloadRecord reply clock] }
    else none
  | _ => none

/-- The `FAULT_APPLIED` of an altered order. -/
def noteFault (executionId : String) (fault : RawFaultSection) (position : ℕ) (raises : Bool) : Option LoadBench :=
  match s.posts[position]? with
  | some ⟨planned, arrival, .recorded reply⟩ =>
    let post : Post := ⟨planned, arrival, .recorded reply⟩
    let ended := { s with posts := s.posts.set position ⟨planned, arrival, .closed raises⟩ }
    if raises then some ended
    else some { ended with faultEvents := s.faultEvents ++ [post.alteredRecord executionId fault reply] }
  | _ => none

def step (deployment : Deployment) (fault : RawFaultSection) : LoadLabel → Option LoadBench
  | .system label =>
    if label.underLoad then (s.system.step deployment label).map fun system => { s with system } else none
  | .send => s.send
  | .arrive position now => s.arrive deployment position now
  | .lose position => s.lose position
  | .finish position reply clock raises => s.finish position reply clock raises
  | .noteFault position raises => s.noteFault deployment.executionId fault position raises

/-- `unique_id` never repeats. -/
def admissible : LoadLabel → Prop
  | .system label => s.system.admissible label
  | _ => True

instance : ∀ label, Decidable (s.admissible label)
  | .system label => inferInstanceAs (Decidable (s.system.admissible label))
  | .send => inferInstanceAs (Decidable True)
  | .arrive .. => inferInstanceAs (Decidable True)
  | .lose _ => inferInstanceAs (Decidable True)
  | .finish .. => inferInstanceAs (Decidable True)
  | .noteFault .. => inferInstanceAs (Decidable True)

end LoadBench

/-- Both services with the catalog of the load, under the load of a plan. -/
def loadMachine (deployment : Deployment) (fault : RawFaultSection) (stock : List String) (plan : List PlannedOrder) :
    Machine LoadBench LoadLabel where
  initial := .initial stock plan
  step s := s.step deployment fault
  admissible := LoadBench.admissible

instance (deployment : Deployment) (fault : RawFaultSection) (stock : List String) (plan : List PlannedOrder)
    (s : LoadBench) (label : LoadLabel) :
    Decidable ((loadMachine deployment fault stock plan).admissible s label) :=
  inferInstanceAs (Decidable (s.admissible label))

/-! ## The first altered order -/

/-- `config/scenarios/inconsistent_data.yml`. -/
def FaultSection.inconsistentData : FaultSection where
  type := .inconsistentData
  target := none
  startAfterSeconds := some 20
  durationSeconds := some 60
  failureProbability := some (3 / 10)
  delayMs := none
  overloadRatePerSecond := none
  seed := some 2048
  accepted := by decide +kernel

/-- One piece of a product. -/
def pieceOf (sku : String) : Dict String Json :=
  ((∅ : Dict String Json).set "sku" (.string sku)).set "quantity" (.number (.ofNat 1))

def WorkloadFiles.pilot : WorkloadFiles where
  dataset := ⟨"orders_v1", 1042, (List.range' 1 8).map fun index => ⟨index, [pieceOf "SKU-001"]⟩⟩
  datasetPath := "datasets/orders_v1.json"
  skus := ["SKU-001"]
  catalogPath := "datasets/inventory_catalog_v1.json"

/-- As the scenario has it, up to the first order the draw takes. -/
def WorkloadSection.pilot : WorkloadSection where
  dataset := "datasets/orders_v1.json"
  requests := some 8
  ratePerSecond := some (1 / 4)
  seed := some 1042
  requestsPositive := by simp
  ratePositive := by simp

/-- What the draw takes of the first orders under the seed of the scenario. -/
def sampledPilot : OrderSampling := fun _ index _ => index = 8

/-- Eight orders four seconds apart. -/
def pilotPlan : List PlannedOrder :=
  (buildPlan sampledPilot .pilot FaultSection.inconsistentData.toRawFaultSection .pilot).toOption.getD []

/-- The services of a pilot execution under this plan. -/
abbrev pilotLoad : Machine LoadBench LoadLabel :=
  loadMachine .pilot FaultSection.inconsistentData.toRawFaultSection WorkloadFiles.pilot.skus pilotPlan

/-- The altered order arrives first, is dispatched and refused; its thread writes both lines. -/
def alteredOrderUnderLoad : List LoadLabel :=
  List.replicate 8 .send ++
    [.arrive 7 0, .system (.build (.api 1) (.calm 1 1)),
      .system (.decide (.api 1) (.proposing .continueFlow (some .inventoryPrimary) .normalFlow) 1 ⟨10, 3⟩ .done),
      .system (.reserve ⟨firstReply 10 (.requested ⟨1, [⟨unknownSku, 1⟩]⟩), .inventoryPrimary⟩ ⟨20, 4⟩ none),
      .finish 7 .accepted ⟨0, 28, 15⟩ false, .noteFault 7 false]

end OrchLab
