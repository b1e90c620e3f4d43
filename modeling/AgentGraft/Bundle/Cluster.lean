import AgentGraft.Bundle.Store
import AgentGraft.Text.Base64
import AgentGraft.Text.Utf8

/-!
# Stores over a cluster

A cluster answers a read with an object or an error of its own; a store over it makes contents and
faults of that. The data of a config map are its contents. The data of a secret are base64 of UTF-8,
and a secret is decoded as a whole or not at all: the first key in order that cannot be decoded
makes the read fail.
-/

namespace AgentGraft

/-! ### Secrets -/

namespace Secret

open Text

/-- Why a value of a secret cannot be decoded. -/
inductive Fault where
  | base64 (f : Base64.Fault)
  | utf8 (f : Utf8.Fault)
  | breakdown (b : Breakdown)
  deriving DecidableEq, Repr

/-- The sort of a value in messages. -/
def sortOf : Value → String
  | .null => "NoneType"
  | .bool _ => "bool"
  | .int _ => "int"
  | .float _ => "float"
  | .str _ => "str"
  | .arr _ => "list"
  | .obj _ => "dict"

/-- The text that a stored text stands for. -/
def decodeText (s : String) : Except Fault String :=
  if !s.toList.all isAscii then .error (.breakdown .nonAsciiText)
  else match Base64.decode s.toList with
    | .error f => .error (.base64 f)
    | .ok octets =>
      match Utf8.decode octets with
      | .error f => .error (.utf8 f)
      | .ok cs => .ok (String.ofList cs)

/-- The text that a stored value stands for. -/
def decodeValue : Value → Except Fault String
  | .str s => decodeText s
  | v => .error (.breakdown (.notText (sortOf v)))

/-- The stored form of a text: the inverse of `decodeText`. -/
def encodeText (s : String) : String :=
  String.ofList (Base64.encode (Utf8.encode s.toList))

/-- The contents of a secret, or the first key that cannot be decoded and why. -/
def decode : Members → Except (String × Fault) Members
  | [] => .ok []
  | (key, v) :: ms =>
    match decodeValue v with
    | .error f => .error (key, f)
    | .ok s => (decode ms).map ((key, .str s) :: ·)

end Secret

/-! ### Clusters -/

/-- What a cluster answers to a read. -/
inductive ClusterReply where
  /-- An object; its data may be absent. -/
  | object (data : Option Members)
  /-- An error with a status. -/
  | apiError (status : Int) (reason : Option String)
  /-- Any other error. -/
  | failure (message : String)
  deriving DecidableEq

/-- A cluster: its reply to a read given the reads before it, and the seconds that it takes. -/
abbrev Cluster := List Read → Read → ClusterReply × Int

namespace Cluster

/-- The fault of a read. -/
def faultOf (r : Read) (missing : Bool) (reason : String) : BundleFault :=
  ⟨missing, r.kind.name, r.ns, r.name, reason⟩

/-- What a reply means to a store. -/
def outcome (r : Read) : ClusterReply → Outcome
  | .apiError status reason =>
    if status = 404 then .fault (faultOf r true "not found")
    else .fault (faultOf r false
      ("API error " ++ toString status ++ ": " ++ reason.getD "None"))
  | .failure message => .fault (faultOf r false message)
  | .object data =>
    let data := data.getD []
    match r.kind with
    | .configMap => .contents data
    | .secret =>
      match Secret.decode data with
      | .ok contents => .contents contents
      | .error (_, .breakdown b) => .breakdown b
      | .error (key, .base64 f) =>
        .fault (faultOf r false ("undecodable key " ++ key ++ ": " ++ f.message))
      | .error (key, .utf8 f) =>
        .fault (faultOf r false ("undecodable key " ++ key ++ ": " ++ f.message))

/-- The store over a cluster. -/
def store (c : Cluster) : Store where
  available := true
  answer earlier r :=
    let reply := c earlier r
    ⟨outcome r reply.1, reply.2⟩

end Cluster

/-- The store without a cluster: every read fails at once. -/
def Store.unavailable : Store where
  available := false
  answer _ r := ⟨.fault (Cluster.faultOf r false "Kubernetes client not available"), 0⟩

/-! ### Clusters that do not change -/

/-- An object in a cluster. -/
structure StoredObject where
  kind : BundleKind
  name : String
  /-- The namespace it lives in; every one when there is none. -/
  ns : Option String
  reply : ClusterReply
  /-- The seconds that a read of it takes. -/
  cost : Int

/-- The object is what a read asks for. -/
def StoredObject.answers (o : StoredObject) (r : Read) : Bool :=
  o.kind = r.kind && o.name = r.name && o.ns.all (· = r.ns)

/-- Objects with one more; it takes the place of the one with its kind and name. -/
def StoredObject.place (o : StoredObject) : List StoredObject → List StoredObject
  | [] => [o]
  | p :: ps => if p.kind = o.kind ∧ p.name = o.name then o :: ps else p :: place o ps

/-- A cluster that holds a fixed list of objects; what is not there is not found. -/
def Cluster.holding (objects : List StoredObject) : Cluster := fun _ r =>
  match objects.find? (·.answers r) with
  | some o => (o.reply, o.cost)
  | none => (.apiError 404 (some "Not Found"), 0)

/-! ### Connecting to a cluster -/

/-- How a cluster can be reached. -/
inductive Connection where
  /-- From inside the cluster. -/
  | inside
  /-- By a configuration file. -/
  | file
  deriving DecidableEq, Repr

/-- The connection that is taken: from inside if that works, else by file if that works. -/
def Connection.choose (inside file : Bool) : Option Connection :=
  if inside then some .inside else if file then some .file else none

/-- The lines of the choice; `reason` says why no file could be used. -/
def Connection.lines (reason : String) : Option Connection → List Line
  | some .inside => [⟨.info, .cluster, "Loaded in-cluster Kubernetes config"⟩]
  | some .file => [⟨.info, .cluster, "Loaded kubeconfig"⟩]
  | none => [⟨.warning, .cluster, "No Kubernetes config available: " ++ reason⟩]

end AgentGraft
