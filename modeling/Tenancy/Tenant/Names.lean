/-
The names of what a tenant is made of. All of them start with the tenant's own name.
-/
namespace Tenancy.Tenant

def quotaName (tenant : String) : String := tenant ++ "-rquota"

/-- The name shared by the chat front-end and everything that serves it. -/
def chatName (tenant : String) : String := tenant ++ "-openwebui"

/-- The name shared by the model runtime and everything that serves it. -/
def runtimeName (tenant : String) : String := tenant ++ "-ollama"

def interceptorName (tenant : String) : String := tenant ++ "-interceptor"

/-! ## Hosts -/

/-- The public host of the chat front-end. -/
def chatHost (tenant domain : String) : String := tenant ++ "." ++ domain

/-- The public host of the model runtime. -/
def runtimeHost (tenant domain : String) : String := tenant ++ "-api." ++ domain

/-- The address of the model runtime inside the cluster. -/
def runtimeUrl (tenant clusterDomain : String) (port : Int) : String :=
  "http://" ++ runtimeName tenant ++ "." ++ tenant ++ ".svc." ++ clusterDomain ++ ":" ++
    toString port

end Tenancy.Tenant
