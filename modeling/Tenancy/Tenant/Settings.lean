/-
The settings that all new tenants share, as a configuration map of the cluster holds them.
-/
import Tenancy.Object.Meta
import Tenancy.Text.Base64

namespace Tenancy

/-- A configuration map: texts and byte strings by key. -/
structure ConfigMap where
  data : Option (Dict String String) := none
  binaryData : Option (Dict String Bytes) := none
  deriving DecidableEq, Repr

/-- Bytes given in base64; null stands for none. -/
def ConfigMap.decodeBytes : Decoder Bytes
  | .null => some []
  | w => do Base64.decode? (← Decoder.text w).toList

open Decoder in
def ConfigMap.decode : Decoder ConfigMap := fun w => do
  let fields ← entries w
  if !(constant fields "apiVersion" "v1" && constant fields "kind" "ConfigMap") then none
  let _ ← member fields "immutable" bool
  let _ ← member fields "metadata" Object.Meta.decode
  let binaryData ← member fields "binaryData" (dict ConfigMap.decodeBytes)
  let data ← member fields "data" (dict text)
  some { data, binaryData }

/-- The settings of a new tenant. -/
structure Settings where
  defaultDomain : String
  runtimeTag : String
  chatTag : String
  deriving DecidableEq, Repr

namespace Settings

def defaultDomainKey : String := "defaultDomain"

def runtimeTagKey : String := "ollamaImageTag"

def chatTagKey : String := "openwebUIImageTag"

/-- Why there are no settings. -/
inductive Error where
  | notFound (ns name : String)
  | missingKey (key : String)
  | invalidUtf8 (key : String)
  deriving DecidableEq, Repr

def Error.message : Error → String
  | .notFound ns name => "settings ConfigMap " ++ ns ++ "/" ++ name ++ " not found"
  | .missingKey key => "settings key " ++ key ++ " missing"
  | .invalidUtf8 key => "settings key " ++ key ++ " is not valid UTF-8"

/-- The value under a key; a text wins over bytes. -/
def lookup (m : ConfigMap) (key : String) : Except Error String :=
  match (m.data.bind (Dict.get? · key)), (m.binaryData.bind (Dict.get? · key)) with
  | some s, _ => .ok s
  | none, some bytes =>
    match Utf8.decode? bytes with
    | some s => .ok s
    | none => .error (.invalidUtf8 key)
  | none, none => .error (.missingKey key)

/-- Reads the settings; the first key that fails in the order domain, runtime, chat decides the
error. -/
def ofConfigMap (m : ConfigMap) : Except Error Settings := do
  let defaultDomain ← lookup m defaultDomainKey
  let runtimeTag ← lookup m runtimeTagKey
  let chatTag ← lookup m chatTagKey
  return { defaultDomain, runtimeTag, chatTag }

end Settings
end Tenancy
