import ItemStore.Settings

/-!
# ItemStore.Http.Endpoint

Where a store is reached over HTTP, and how that is read from environment variables.
-/

namespace ItemStore.Http

/-- Where a store is reached, and how long to wait for it. -/
structure Endpoint where
  /-- The address. -/
  url : String := "http://localhost:4566"
  region : String := "us-east-1"
  /-- How many milliseconds a request may take. -/
  timeout : Nat := 30000
deriving DecidableEq, Repr

namespace Endpoint

instance : Inhabited Endpoint := ⟨{}⟩

/--
The endpoint with what the environment says about it. A timeout that is no number of 64 bits says
nothing.
-/
def ofEnvironment (environment : Environment) : Endpoint where
  url := (environment.find? "TABLEKIT_ENDPOINT_URL").getD ({} : Endpoint).url
  region := (environment.find? "DEFAULT_REGION").getD ({} : Endpoint).region
  timeout :=
    ((environment.find? "TABLEKIT_TIMEOUT_MS").bind (Text.boundedNat? UInt64.size)).getD
      ({} : Endpoint).timeout

/-- The endpoint at another address. -/
def withUrl (endpoint : Endpoint) (url : String) : Endpoint := { endpoint with url }

end Endpoint

end ItemStore.Http
