import TokenBridge.Proofs.Command.Talk
import TokenBridge.Proofs.Evm.Deployment

namespace TokenBridge.Command

open Dialogue (Runs Only Guarded Harmless)

variable {args : DeployArguments} {vars : Variables} {exchanges : List (Exchange Query Answer)}
  {file : Except String String} {bytecode : Bytes} {result : Except Failure Unit}

/-- What a deployment needs, read from the arguments and from the file of the artifact. -/
structure Prepared (args : DeployArguments) (file : Except String String) (node : Url) (signing : Key)
    (bytecode : Bytes) : Prop where
  artifact : ∃ json, file = .ok json ∧ Artifact.bytecode json = .ok bytecode
  node : Url.read args.chain.provider = .ok node
  key : Key.read args.key.expose = .ok signing

def deploymentLines (d : Deployment) : List String :=
  ["Wallet balance: " ++ Coin.format d.deployerBalance, "Token deployed to: " ++ d.address.checksummed,
    "Transaction: " ++ d.transaction.text]

def told : Except NetworkError Deployment → List (Exchange Query Answer)
  | .ok d => (deploymentLines d).map fun line => ⟨.print line, ()⟩
  | .error _ => []

theorem deployFile_eq_throw (h : ¬ ∃ node signing bytecode, Prepared args file node signing bytecode) :
    ∃ e, deployFile args file = throw e := by
  cases file with
  | error reason => exact ⟨_, rfl⟩
  | ok json =>
    cases hbytecode : Artifact.bytecode json with
    | error e => exact ⟨.network e, by simp only [deployFile, decided_ok_bind, hbytecode, decided_error_bind]⟩
    | ok bytecode =>
      obtain ⟨e, he⟩ : ∃ e, Deployment.deploy args.chain.provider args.chain.network args.key.expose bytecode =
          throw e := by
        refine Deployment.deploy_eq_throw ?_
        rintro ⟨node, signing, hnode, hkey⟩
        exact h ⟨node, signing, bytecode, ⟨json, rfl, hbytecode⟩, hnode, hkey⟩
      refine ⟨.network e, ?_⟩
      simp only [deployFile, decided_ok_bind, hbytecode, deployBytecode, he, remotely_throw_bind]

theorem runs_deployBytecode (hr : Runs (deployBytecode args bytecode).run exchanges result) :
    ∃ inner answer,
      Runs (Deployment.deploy args.chain.provider args.chain.network args.key.expose bytecode).run inner answer ∧
        exchanges = inner.map withNode ++ told answer ∧ result = (answer.map fun _ => ()).mapError .network := by
  rw [deployBytecode, Dialogue.runs_attempt_bind_iff] at hr
  rcases hr with ⟨e, hremotely, rfl⟩ | ⟨first, d, second, rfl, hremotely, hlines⟩
  · obtain ⟨inner, answer, rfl, hinner, hanswer⟩ := runs_remotely_iff.1 hremotely
    refine ⟨inner, answer, hinner, ?_⟩
    cases answer with
    | ok d => cases hanswer
    | error e =>
      cases hanswer
      exact ⟨(List.append_nil _).symm, rfl⟩
  · obtain ⟨inner, rfl, hinner⟩ := of_runs_remotely hremotely
    obtain ⟨_, rfl, hlines'⟩ := runs_say_bind_iff.1 hlines
    obtain ⟨_, rfl, hlast⟩ := runs_say_bind_iff.1 hlines'
    obtain ⟨rfl, rfl⟩ := runs_say_iff.1 hlast
    exact ⟨inner, .ok d, hinner, rfl, rfl⟩

inductive Ending (args : DeployArguments) (file : Except String String) :
    List (Exchange Query Answer) → Except Failure (Option Watch) → Prop
  | unprepared {e : Failure} : (¬ ∃ node signing bytecode, Prepared args file node signing bytecode) →
      Ending args file [] (.error e)
  | carriedOut {node : Url} {signing : Key} {bytecode : Bytes} {inner : List (Exchange Node.Query Node.Answer)}
      {answer : Except NetworkError Deployment} : Prepared args file node signing bytecode →
      Deployment.Course node args.chain.network signing.account bytecode inner answer →
      Ending args file (inner.map withNode ++ told answer) ((answer.map fun _ => none).mapError .network)

theorem runs_run_deploy {result : Except Failure (Option Watch)}
    (hr : Runs (run (.deploy args) vars).run exchanges result) :
    ∃ result', Runs (runDeploy args).run exchanges result' ∧ result = result'.map fun _ => none := by
  rw [run, Dialogue.runs_attempt_bind_iff] at hr
  rcases hr with ⟨e, hfailed, rfl⟩ | ⟨first, _, _, rfl, hfirst, hdone⟩
  · exact ⟨.error e, hfailed, rfl⟩
  · obtain ⟨rfl, rfl⟩ := Dialogue.runs_done_iff.1 hdone
    exact ⟨.ok (), by rwa [List.append_nil], rfl⟩

theorem ending_of_runs {result : Except Failure (Option Watch)}
    (hr : Runs (run (.deploy args) vars).run exchanges result) :
    ∃ file rest, exchanges = ⟨.artifact args.artifact, file⟩ :: rest ∧ Ending args file rest result := by
  obtain ⟨result', hdeploy, rfl⟩ := runs_run_deploy hr
  obtain ⟨file, rest, rfl, hrest⟩ := Dialogue.runs_ask_iff.1 hdeploy
  refine ⟨file, rest, rfl, ?_⟩
  by_cases h : ∃ node signing bytecode, Prepared args file node signing bytecode
  · obtain ⟨node, signing, bytecode, hp⟩ := h
    obtain ⟨json, rfl, hbytecode⟩ := hp.artifact
    simp only [deployFile, decided_ok_bind, hbytecode] at hrest
    obtain ⟨inner, answer, hinner, rfl, rfl⟩ := runs_deployBytecode hrest
    rw [Deployment.deploy_eq_create hp.node hp.key] at hinner
    have hresult : ((answer.map fun _ => ()).mapError Failure.network).map (fun _ => (none : Option Watch)) =
        (answer.map fun _ => none).mapError .network := by
      cases answer with
      | ok d => rfl
      | error e => rfl
    rw [hresult]
    exact .carriedOut hp (Deployment.course_of_runs hinner)
  · obtain ⟨e, he⟩ := deployFile_eq_throw h
    rw [he] at hrest
    obtain ⟨rfl, rfl⟩ := Dialogue.runs_done_iff.1 hrest
    exact .unprepared h

def DeploymentPermitted (args : DeployArguments) (earlier : List (Exchange Query Answer)) (s : Node.Submission) :
    Prop :=
  ∃ file node signing bytecode balance, Prepared args file node signing bytecode ∧
    s.Fulfils node ⟨signing.account, none, bytecode⟩ ∧
    earlier = ⟨.artifact args.artifact, file⟩ ::
      (Deployment.opening node args.chain.network signing.account balance bytecode s.transaction).map withNode

theorem guarded_deployFile :
    Guarded Query.submission? (fun earlier => DeploymentPermitted args (⟨.artifact args.artifact, file⟩ :: earlier))
      (deployFile args file) := by
  refine .after (only_decided _ _) fun _ json hread => ?_
  obtain ⟨rfl, rfl⟩ := of_runs_decided hread
  refine .after (only_decided _ _) fun _ bytecode hdecided => ?_
  obtain ⟨rfl, hbytecode⟩ := of_runs_decided hdecided
  refine Guarded.before (guarded_remotely (Deployment.guarded_deploy.mono ?_)) fun d => ?_
  · rintro earlier s ⟨node, signing, balance, hnode, hkey, hs, rfl⟩
    exact ⟨.ok json, node, signing, bytecode, balance, ⟨⟨json, rfl, hbytecode⟩, hnode, hkey⟩, hs, rfl⟩
  · refine Only.attempt_bind (only_say rfl) fun _ => ?_
    exact Only.attempt_bind (only_say rfl) fun _ => only_say rfl

theorem guarded_runDeploy : Guarded Query.submission? (DeploymentPermitted args) (runDeploy args) :=
  .ask rfl fun _ => guarded_deployFile

theorem guarded_run_deploy : Guarded Query.submission? (DeploymentPermitted args) (run (.deploy args) vars) :=
  guarded_runDeploy.before fun _ => .done _

def printed (exchanges : List (Exchange Query Answer)) : List String :=
  exchanges.filterMap fun x =>
    match x.1 with
    | .print line => some line
    | _ => none

theorem printed_withNode (inner : List (Exchange Node.Query Node.Answer)) : printed (inner.map withNode) = [] := by
  rw [printed, List.filterMap_map]
  exact List.filterMap_eq_nil_iff.2 fun _ _ => rfl

theorem mem_carriedOut {inner : List (Exchange Node.Query Node.Answer)} {query : Node.Query}
    {reply : Node.Answer query} {answer : Except NetworkError Deployment} :
    ⟨.node query, reply⟩ ∈ inner.map withNode ++ told answer ↔ ⟨query, reply⟩ ∈ inner := by
  rw [List.mem_append, mem_map_withNode, or_iff_left]
  intro h
  cases answer with
  | ok d => simp [told] at h
  | error e => simp [told] at h

/-- What a receipt says of a creation decides how the command ends. -/
structure Decides (receipt : Node.Receipt) (result : Except Failure (Option Watch)) : Prop where
  reverted : receipt.succeeded = false → result = .error (.network (.reverted receipt.transaction.text))
  nowhere : receipt.succeeded = true → receipt.created = none →
    result = .error (.network (.contractCall "Deployment receipt has no contract address"))
  deployed : receipt.succeeded = true → receipt.created.isSome → result = .ok none

section Ending

variable {rest : List (Exchange Query Answer)} {result : Except Failure (Option Watch)} {node : Url}

theorem Ending.of_unprepared (h : Ending args file rest result)
    (hnot : ¬ ∃ node signing bytecode, Prepared args file node signing bytecode) :
    rest = [] ∧ exitCode result = 1 := by
  cases h with
  | unprepared => exact ⟨rfl, rfl⟩
  | carriedOut hp _ => exact absurd ⟨_, _, _, hp⟩ hnot

theorem Ending.decides {hash : Hash} {receipt : Node.Receipt} (h : Ending args file rest result)
    (hx : ⟨.node ⟨node, .receipt hash⟩, .ok receipt⟩ ∈ rest) : Decides receipt result := by
  cases h with
  | unprepared => cases hx
  | carriedOut _ hcourse =>
    obtain ⟨balance, hreports⟩ := hcourse.reports_of_mem (mem_carriedOut.1 hx)
    cases hreports with
    | reverted hfailed => exact ⟨fun _ => rfl, by simp [hfailed], by simp [hfailed]⟩
    | nowhere hsucceeded hcreated => exact ⟨by simp [hsucceeded], fun _ _ => rfl, by simp [hcreated]⟩
    | deployed hsucceeded hcreated => exact ⟨by simp [hsucceeded], by simp [hcreated], fun _ _ => rfl⟩

theorem Ending.of_ok (h : Ending args file rest result) (hok : exitCode result = 0) :
    ∃ node t hash receipt d, ⟨.node ⟨node, .send t⟩, .ok hash⟩ ∈ rest ∧
      ⟨.node ⟨node, .receipt hash⟩, .ok receipt⟩ ∈ rest ∧ receipt.succeeded = true ∧
      receipt.created = some d.address ∧ receipt.transaction = d.transaction ∧ printed rest = deploymentLines d := by
  cases h with
  | unprepared => cases hok
  | @carriedOut node signing bytecode inner answer _ hcourse =>
    cases answer with
    | error e => cases hok
    | ok d =>
      obtain ⟨t, hash, receipt, rfl, hsucceeded, hcreated, htransaction⟩ := hcourse.of_ok
      refine ⟨node, t, hash, receipt, d, mem_carriedOut.2 (by simp), mem_carriedOut.2 (by simp), hsucceeded, hcreated,
        htransaction, ?_⟩
      rw [printed, List.filterMap_append, ← printed, ← printed, printed_withNode]
      rfl

theorem Ending.printed_of_failed (h : Ending args file rest result) (hfailed : exitCode result ≠ 0) :
    printed rest = [] := by
  cases h with
  | unprepared => rfl
  | @carriedOut node signing bytecode inner answer _ _ =>
    cases answer with
    | ok d => exact absurd rfl hfailed
    | error e =>
      rw [told, List.append_nil]
      exact printed_withNode inner

end Ending

theorem deploy_submits_prepared {result : Except Failure (Option Watch)}
    (hr : Runs (run (.deploy args) vars).run exchanges result) :
    ∃ file rest, exchanges = ⟨.artifact args.artifact, file⟩ :: rest ∧
      ((¬ ∃ node signing bytecode, Prepared args file node signing bytecode) →
        rest = [] ∧ exitCode result = 1) ∧
      (submissions rest).length ≤ 1 ∧
      (∀ earlier node t answer later,
        rest = earlier ++ ⟨.node ⟨node, .send t⟩, answer⟩ :: later →
          ∃ signing bytecode balance filling, Prepared args file node signing bytecode ∧ bytecode ≠ [] ∧
            earlier = ⟨.node ⟨node, .chain⟩, .ok args.chain.network⟩ ::
              ⟨.node ⟨node, .balance signing.account⟩, .ok balance⟩ :: filling ∧
            t.sender = signing.account ∧ t.receiver = none ∧ t.input = bytecode) ∧
      (∀ node hash receipt, ⟨.node ⟨node, .receipt hash⟩, .ok receipt⟩ ∈ rest → Decides receipt result) ∧
      (exitCode result = 0 → ∃ node t hash receipt d, ⟨.node ⟨node, .send t⟩, .ok hash⟩ ∈ rest ∧
        ⟨.node ⟨node, .receipt hash⟩, .ok receipt⟩ ∈ rest ∧ receipt.succeeded = true ∧
        receipt.created = some d.address ∧ receipt.transaction = d.transaction ∧
        printed rest = deploymentLines d) ∧
      (exitCode result ≠ 0 → printed rest = []) := by
  obtain ⟨file, rest, rfl, hending⟩ := ending_of_runs hr
  have houtcome := guarded_run_deploy _ result hr
  refine ⟨file, rest, rfl, hending.of_unprepared, houtcome.length_le_one, ?_, fun _ _ _ => hending.decides,
    hending.of_ok, hending.printed_of_failed⟩
  intro earlier node t answer later hsplit
  have hsplit' : ⟨.artifact args.artifact, file⟩ :: rest =
      (⟨.artifact args.artifact, file⟩ :: earlier) ++ ⟨.node ⟨node, .send t⟩, answer⟩ :: later := by
    rw [hsplit]
    rfl
  obtain ⟨file', node', signing, bytecode, balance, hp, hs, hearlier⟩ := houtcome.permits_of_split hsplit' rfl
  obtain ⟨hfile, rfl⟩ := List.cons.inj hearlier
  cases hfile
  obtain rfl : node = node' := hs.node
  obtain ⟨json, -, hbytecode⟩ := hp.artifact
  exact ⟨signing, bytecode, balance, _, hp, Artifact.ne_nil_of_bytecode hbytecode, rfl, hs.sender,
    hs.receiver, hs.input⟩

def creationArguments : DeployArguments :=
  { key := ⟨"0000000000000000000000000000000000000000000000000000000000000001"⟩
    chain := ⟨"http://localhost:8545", 97⟩
    artifact := "artifact.json" }

def creating : (query : Query) → Answer query
  | .print _ => ()
  | .warn _ => ()
  | .artifact _ => .ok "\x7b\"contractName\":\"Token\",\"bytecode\":\"0x6080\"\x7d"
  | .fetch _ => .ok ⟨404, ""⟩
  | .node ⟨_, .chain⟩ => .ok 97
  | .node ⟨_, .balance _⟩ => .ok Word.zero
  | .node ⟨_, .call _ _⟩ => .ok []
  | .node ⟨_, .nonce _⟩ => .ok 0
  | .node ⟨_, .gas _⟩ => .ok 60000
  | .node ⟨_, .fees⟩ => .ok ⟨1, 1⟩
  | .node ⟨_, .send _⟩ => .ok (Hash.repeated 1)
  | .node ⟨_, .receipt hash⟩ => .ok ⟨hash, true, [], some ⟨List.replicate 20 9, by decide⟩⟩

def creation : List (Exchange Query Answer) × Except Failure (Option Watch) :=
  (run (.deploy creationArguments) fun _ => none).run.answered creating

theorem deploy_submits_prepared_creation :
    Runs (run (.deploy creationArguments) fun _ => none).run creation.1 creation.2 ∧
      ∃ t d, submissions creation.1 = [t] ∧ t.transaction.receiver = none ∧ t.transaction.input = [0x60, 0x80] ∧
        d.address.bytes = List.replicate 20 9 ∧ printed creation.1 = deploymentLines d := by
  have hr := Dialogue.runs_answered creating (run (.deploy creationArguments) fun _ => none).run
  obtain ⟨file, rest, hexchanges, -, hone, hsent, -, hdone, -⟩ := deploy_submits_prepared hr
  have hanswer : ∀ x ∈ ⟨.artifact creationArguments.artifact, file⟩ :: rest, x.2 = creating x.1 :=
    fun _ hx => Dialogue.mem_answered (hexchanges ▸ hx)
  have hok : exitCode creation.2 = 0 := by decide +kernel
  obtain ⟨node, t, hash, receipt, d, hsend, hreceipt, -, hcreated, -, hprinted⟩ := hdone hok
  obtain ⟨earlier, later, hsplit⟩ := List.append_of_mem hsend
  obtain ⟨signing, bytecode, _, _, hp, -, -, -, hreceiver, hinput⟩ := hsent _ _ _ _ _ hsplit
  have hbytecode : bytecode = [0x60, 0x80] := by
    obtain ⟨json, hfile, hread⟩ := hp.artifact
    have hjson : Except.ok json = creating (.artifact creationArguments.artifact) :=
      hfile ▸ hanswer _ List.mem_cons_self
    cases hjson
    have htext : Artifact.bytecode "\x7b\"contractName\":\"Token\",\"bytecode\":\"0x6080\"\x7d" =
        .ok [0x60, 0x80] := by
      decide +kernel
    exact (Except.ok.inj (htext.symm.trans hread)).symm
  have haddress : d.address.bytes = List.replicate 20 9 := by
    have hanswered : Except.ok receipt = creating (.node ⟨node, .receipt hash⟩) :=
      hanswer _ (List.mem_cons_of_mem _ hreceipt)
    cases hanswered
    exact congrArg Address.bytes (Option.some.inj hcreated).symm
  have hmem : (⟨node, t⟩ : Node.Submission) ∈ submissions rest := mem_submissions_iff.2 ⟨_, hsend⟩
  have hlength : (submissions rest).length = 1 := le_antisymm hone (List.length_pos_of_mem hmem)
  obtain ⟨s, hs⟩ := List.length_eq_one_iff.1 hlength
  rw [hs, List.mem_singleton] at hmem
  refine ⟨hr, s, d, ?_, hmem ▸ hreceiver, hmem ▸ hinput.trans hbytecode, haddress, ?_⟩
  · exact (congrArg submissions hexchanges).trans hs
  · exact (congrArg printed hexchanges).trans hprinted

end TokenBridge.Command
