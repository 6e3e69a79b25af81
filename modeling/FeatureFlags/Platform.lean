/-
  THE PLATFORM — what the library says about itself and about where it runs.
-/
import FeatureFlags.Http.Url
import FeatureFlags.Json.Basic

namespace FeatureFlags

/-- The library, and another one that is built on it. -/
structure SdkInfo where
  name : String
  version : String
  wrapperName : Option String
  wrapperVersion : Option String
deriving DecidableEq, Repr

/-- This library. -/
def SdkInfo.own : SdkInfo := ⟨"flagpole", "0.1.0", none, none⟩

/-- How the library names itself to servers. -/
def SdkInfo.userAgent (s : SdkInfo) : String := s.name ++ "/" ++ s.version

/-- Where the library runs. -/
structure Platform where
  name : String
  osName : String
  osArch : String
  usingProxy : Bool
  /-- The proxy is used under a name. -/
  usingProxyAuthenticator : Bool
deriving DecidableEq, Repr

namespace Platform

/-- The variables that name a proxy; the first one that is set counts. -/
def proxyVariables : List String := ["HTTPS_PROXY", "https_proxy", "HTTP_PROXY", "http_proxy"]

/-- Whether the address of a proxy holds a user's name. -/
def hasCredentials (proxy : String) : Bool :=
  (Http.Url.ofText? proxy).any fun url => url.username ≠ ""

/-- The proxy that an environment names.  A variable that is set to nothing hides the others. -/
def proxy? (valueOf : String → Option String) : Option String :=
  (proxyVariables.findSome? valueOf).filter (· ≠ "")

/-- The platform of a system with an environment. -/
def ofEnvironment (name osName osArch : String) (valueOf : String → Option String) : Platform where
  name := name
  osName := osName
  osArch := osArch
  usingProxy := (proxy? valueOf).isSome
  usingProxyAuthenticator := (proxy? valueOf).any hasCredentials

end Platform

end FeatureFlags
