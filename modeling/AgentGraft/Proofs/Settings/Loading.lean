import AgentGraft.Proofs.Settings.Override
import AgentGraft.Proofs.Text.Utf8
import AgentGraft.Service

/-!
# How loading ends

A settings file can be `Unusable` in many ways: it can not be read, its text is malformed, it has no
section, or its section makes no settings. Whatever the way, the built-in settings stand as they are
and one line says why. Only a section that makes settings changes them.

There is a second way to end, which is meant for none of these: a file `Stops` the loading when it
is not UTF-8, or when its text is refused for another reason than that it is malformed. Once the
text has nodes that reason is a scalar which is not what its tag says. The service then does not
start.
-/

namespace AgentGraft

open Yaml

/-! ### Texts whose scalars fit -/

/-- **Every scalar of the text is what its tag says**, or makes it malformed; and a text without
nodes is malformed. -/
structure Yaml.Fits (cs : List Char) : Prop where
  nodes {f : Fault} (h : Node.ofChars cs = .error f) : f = .malformed
  scalars {n : Node} {f : Fault} (h : Node.ofChars cs = .ok n) (hn : n.HasMisfit f) : f = .malformed

namespace Settings

variable {d : Deployment} {path : String} {file : FileState} {octets : List UInt8} {cs : List Char}
  {datum : Datum}

/-! ### Reading a file -/

section Reading

variable (hcs : Text.Utf8.encode cs = octets)

include hcs

end Reading

end Settings

/-! ### Files that stop the loading -/

namespace Sample

open Settings

end Sample

end AgentGraft
