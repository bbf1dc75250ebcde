import TokenBridge.Proofs.Evm.Client
import TokenBridge.Proofs.Evm.Deployment

namespace TokenBridge

open Dialogue (Runs)
open Node (Query Answer Fault Transaction)

namespace Node

variable {α β : Type} {node : Url} {chain : Nat} {x : Attempt α} {f : α → Attempt β}
  {exchanges : List (Exchange Query Answer)}

def chains (exchanges : List (Exchange Query Answer)) : List Nat :=
  exchanges.filterMap fun x =>
    match x with
    | ⟨⟨_, .chain⟩, .ok chain⟩ => some chain
    | _ => none

/-- There are answers that have a transaction for the chain sent to the node. -/
def MaySend (x : Attempt α) (node : Url) (chain : Nat) : Prop :=
  ∃ exchanges result t hash, Runs x.run exchanges result ∧ ⟨⟨node, .send t⟩, .ok hash⟩ ∈ exchanges ∧ t.chain = chain

theorem maySend_send (node : Url) (blame : Fault → NetworkError) (draft : Draft) (chain : Nat) :
    MaySend (send node blame draft) node chain := by
  let t : Transaction := ⟨draft.sender, draft.receiver, Word.zero, 0, chain, 0, ⟨0, 0⟩, draft.input⟩
  have hr : Runs (send node blame draft).run
      (filling node draft t ++ [⟨⟨node, .send t⟩, .ok (Hash.repeated 0)⟩]) (.ok (Hash.repeated 0)) :=
    .ask (.ask (.ask (.ask (.ask (.done _)))))
  exact ⟨_, _, t, _, hr, List.mem_append_right _ (List.mem_singleton_self _), rfl⟩

theorem MaySend.bind (h : MaySend x node chain) : MaySend (x >>= f) node chain := by
  obtain ⟨first, result, t, hash, hr, hmem, ht⟩ := h
  cases result with
  | ok a =>
    have hrest := Dialogue.runs_answered unanswered (f a).run
    exact ⟨_, _, t, hash, Dialogue.runs_attempt_bind_iff.2 (.inr ⟨first, a, _, rfl, hr, hrest⟩),
      List.mem_append_left _ hmem, ht⟩
  | error e => exact ⟨_, _, t, hash, Dialogue.runs_attempt_bind_iff.2 (.inl ⟨e, hr, rfl⟩), hmem, ht⟩

theorem MaySend.after {a : α} (hr : Runs x.run exchanges (.ok a)) (h : MaySend (f a) node chain) :
    MaySend (x >>= f) node chain := by
  obtain ⟨second, result, t, hash, hsecond, hmem, ht⟩ := h
  exact ⟨_, _, t, hash, Dialogue.runs_attempt_bind_iff.2 (.inr ⟨exchanges, a, second, rfl, hr, hsecond⟩),
    List.mem_append_right _ hmem, ht⟩

end Node

variable {rpc key : String} {token : Address} {chain : Nat} {node : Url} {signing : Key} {bytecode : Bytes}
  {connecting exchanges earlier later : List (Exchange Query Answer)} {t : Transaction} {answer : Except Fault Hash}

namespace Client

variable {c : Client} {raw : Word} {destination : String} {result : Except NetworkError Node.Receipt}

/-- The clients that come of a connection, with the exchanges that it took. -/
inductive Made (rpc : String) (token : Address) (chain : Nat) : List (Exchange Query Answer) → Client → Prop
  | connected {exchanges : List (Exchange Query Answer)} {c : Client} :
      Runs (connect rpc token chain).run exchanges (.ok c) → Made rpc token chain exchanges c
  | signing {exchanges : List (Exchange Query Answer)} {c c' : Client} {key : String} :
      Made rpc token chain exchanges c → c.withSigner key = .ok c' → Made rpc token chain exchanges c'
  | onNetwork {exchanges : List (Exchange Query Answer)} {c : Client} (network : String) :
      Made rpc token chain exchanges c → Made rpc token chain exchanges (c.withNetwork network)

theorem Made.exchanges_eq (h : Made rpc token chain connecting c) :
    connecting = [⟨⟨c.node, .chain⟩, .ok chain⟩] ∧ c.chain = chain := by
  induction h with
  | connected hr =>
    obtain ⟨node, -, rfl, rfl⟩ := runs_connect_ok_iff.1 hr
    exact ⟨rfl, rfl⟩
  | signing _ hsigner ih =>
    obtain ⟨signer, -, rfl⟩ := withSigner_eq_ok_iff.1 hsigner
    exact ih
  | onNetwork network _ ih => exact ih

theorem made_signing (hnode : Url.read rpc = .ok node) (hkey : Key.read key = .ok signing) :
    Made rpc token chain [⟨⟨node, .chain⟩, .ok chain⟩] ⟨node, token, chain, defaultNetwork, some signing⟩ :=
  .signing (.connected (runs_connect_ok_iff.2 ⟨node, hnode, rfl, rfl⟩)) (withSigner_eq_ok_iff.2 ⟨signing, hkey, rfl⟩)

theorem withdraw_eq_throw (hsigner : c.signer = none) :
    c.withdraw raw destination = throw (.contractCall "withdrawals need a signer") := by
  rw [withdraw, signerAccount, hsigner, Option.map_none]

theorem filling_of_withdraw (hr : Runs (c.withdraw raw destination).run exchanges result)
    (hsplit : exchanges = earlier ++ ⟨⟨node, .send t⟩, answer⟩ :: later) :
    node = c.node ∧ ∃ draft, earlier = Node.filling c.node draft t := by
  cases hsigner : c.signer with
  | none =>
    rw [withdraw_eq_throw hsigner] at hr
    obtain ⟨rfl, -⟩ := Dialogue.runs_done_iff.1 hr
    simp at hsplit
  | some signing =>
    obtain ⟨hs, hearlier⟩ := (guarded_withdraw_filled hsigner _ _ hr).permits_of_split hsplit rfl
    exact ⟨hs.node, _, hearlier⟩

theorem maySend_withdraw (hsigner : c.signer = some signing) (raw : Word) (destination : String) (other : Nat) :
    Node.MaySend (c.withdraw raw destination) c.node other := by
  have haccount : c.signerAccount = some signing.account := by rw [signerAccount, hsigner, Option.map_some]
  rw [withdraw, haccount]
  exact (Node.maySend_send _ _ _ _).bind

end Client

namespace Deployment

variable {result : Except NetworkError Deployment}

theorem opening_of_deploy (hr : Runs (deploy rpc chain key bytecode).run exchanges result)
    (hsplit : exchanges = earlier ++ ⟨⟨node, .send t⟩, answer⟩ :: later) :
    Url.read rpc = .ok node ∧ ∃ deployer balance, earlier = opening node chain deployer balance bytecode t := by
  obtain ⟨node', signing, balance, hnode, -, hs, hearlier⟩ := (guarded_deploy _ _ hr).permits_of_split hsplit rfl
  obtain rfl : node = node' := hs.node
  exact ⟨hnode, _, balance, hearlier⟩

theorem maySend_deploy (hnode : Url.read rpc = .ok node) (hkey : Key.read key = .ok signing) (other : Nat) :
    Node.MaySend (deploy rpc chain key bytecode) node other := by
  rw [deploy_eq_create hnode hkey, create_eq]
  have hbalance : Runs (Node.ask node Node.plainly (.balance signing.account)).run _ (.ok Word.zero) :=
    Node.runs_ask_ok_iff.2 rfl
  exact .after (Node.runs_requireChain_ok.2 rfl) (.after hbalance (Node.maySend_send _ _ _ _).bind)

end Deployment

theorem sent_for_chain_answered_last (rpc key : String) (token : Address) (chain : Nat) (bytecode : Bytes) :
    (∀ connecting c, Client.Made rpc token chain connecting c → ∀ raw destination,
      (∀ exchanges result, Runs (c.withdraw raw destination).run exchanges result →
        ∀ earlier node t answer later, exchanges = earlier ++ ⟨⟨node, .send t⟩, answer⟩ :: later →
          node = c.node ∧ c.chain = chain ∧ Node.chains (connecting ++ earlier) = [chain, t.chain]) ∧
      (∀ signing, c.signer = some signing → ∀ other, Node.MaySend (c.withdraw raw destination) c.node other)) ∧
    (∀ exchanges result, Runs (Deployment.deploy rpc chain key bytecode).run exchanges result →
      ∀ earlier node t answer later, exchanges = earlier ++ ⟨⟨node, .send t⟩, answer⟩ :: later →
        Url.read rpc = .ok node ∧ Node.chains earlier = [chain, t.chain]) ∧
    (∀ node signing, Url.read rpc = .ok node → Key.read key = .ok signing →
      ∀ other, Node.MaySend (Deployment.deploy rpc chain key bytecode) node other) := by
  refine ⟨fun connecting c hmade raw destination => ⟨?_, ?_⟩, ?_, ?_⟩
  · intro exchanges result hr earlier node t answer later hsplit
    obtain ⟨rfl, hchain⟩ := hmade.exchanges_eq
    obtain ⟨hnode, draft, rfl⟩ := Client.filling_of_withdraw hr hsplit
    exact ⟨hnode, hchain, rfl⟩
  · exact fun signing hsigner => Client.maySend_withdraw hsigner raw destination
  · intro exchanges result hr earlier node t answer later hsplit
    obtain ⟨hnode, deployer, balance, rfl⟩ := Deployment.opening_of_deploy hr hsplit
    exact ⟨hnode, rfl⟩
  · exact fun node signing hnode hkey => Deployment.maySend_deploy hnode hkey

theorem sent_for_other_chain :
    (¬ ∀ rpc token chain connecting c, Client.Made rpc token chain connecting c →
      ∀ raw destination exchanges result, Runs (c.withdraw raw destination).run exchanges result →
        ∀ node t answer, ⟨⟨node, .send t⟩, answer⟩ ∈ exchanges → t.chain = chain) ∧
    ¬ ∀ rpc chain key bytecode exchanges result, Runs (Deployment.deploy rpc chain key bytecode).run exchanges result →
      ∀ node t answer, ⟨⟨node, .send t⟩, answer⟩ ∈ exchanges → t.chain = chain := by
  have hnode : Url.read "http://localhost:8545" =
      .ok ⟨"http".toList, some ⟨[], [], .name "localhost".toList, some 8545⟩, .segments [[]], none, none⟩ := rfl
  have hkey : Key.read "0000000000000000000000000000000000000000000000000000000000000001" =
      .ok ⟨1, by decide, by decide⟩ := rfl
  constructor
  · intro hall
    have hmade : Client.Made _ Address.zero 97 _ _ := Client.made_signing hnode hkey
    obtain ⟨_, _, t, _, hr, hmem, hother⟩ := Client.maySend_withdraw (c := ⟨_, _, _, _, _⟩) rfl Word.zero "G" 56
    have hchain : t.chain = 97 := hall _ _ _ _ _ hmade _ _ _ _ hr _ _ _ hmem
    rw [hother] at hchain
    cases hchain
  · intro hall
    have hsends : Node.MaySend (Deployment.deploy _ 97 _ [0x60, 0x80]) _ 56 :=
      Deployment.maySend_deploy hnode hkey 56
    obtain ⟨_, _, t, _, hr, hmem, hother⟩ := hsends
    have hchain : t.chain = 97 := hall _ _ _ _ _ _ hr _ _ _ hmem
    rw [hother] at hchain
    cases hchain

end TokenBridge
