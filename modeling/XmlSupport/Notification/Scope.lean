import XmlSupport.Json.Decode

/-!
# Configuration scopes

The part of a user's configuration that a change of settings is meant for.
-/

namespace XmlSupport.Notification

open Json

inductive Scope where
  | default
  | global
  | workspace
  | folder
  deriving DecidableEq, Repr

structure ScopeInfo where
  scope : Scope
  configurationTarget : Bool
  deriving DecidableEq, Repr

namespace Scope

def name : Scope → String
  | .default => "default"
  | .global => "global"
  | .workspace => "workspace"
  | .folder => "folder"

def all : List Scope := [.default, .global, .workspace, .folder]

def decode : Decoder Scope := Decode.variant (all.map fun s => (s.name, s))

def encode (s : Scope) : Json := .string s.name

end Scope

namespace ScopeInfo

def ofMembers (members : List (String × Json)) : Except Mismatch ScopeInfo := do
  let target ← Decode.member "configurationTarget" Decode.boolean members
  let scope ← Decode.member "scope" Scope.decode members
  let scope ← Decode.required "scope" scope
  let target ← Decode.required "configurationTarget" target
  return ⟨scope, target⟩

def ofItems (items : List Json) : Except Mismatch ScopeInfo := do
  let (scope, rest) ← Decode.item "ScopeInfo" 2 0 Scope.decode items
  let (target, rest) ← Decode.item "ScopeInfo" 2 1 Decode.boolean rest
  Decode.finished items.length rest
  return ⟨scope, target⟩

def decode : Decoder ScopeInfo := Decode.record "ScopeInfo" ofMembers ofItems

def encode (s : ScopeInfo) : Json :=
  .object [("configurationTarget", .bool s.configurationTarget), ("scope", s.scope.encode)]

end ScopeInfo
end XmlSupport.Notification
