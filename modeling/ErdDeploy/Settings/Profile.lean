import ErdDeploy.Data.Check
import ErdDeploy.Web.Token

/-!
Profiles: the environments that a source can be deployed to.
-/

namespace ErdDeploy

open Check

/-- An environment and what is needed to get into it. -/
structure Profile where
  url : String
  tenantId : String
  clientId : String
  /-- The secret of the application, unless the environment variables hold it. -/
  clientSecret : Option String
  /-- The solution that created objects are added to. -/
  solution : Option String
  description : String
  deriving DecidableEq, Repr

/-- A profile from the members of a record. Slashes at the end of the address are left out. -/
def Profile.ofMembers (members : Members) : Checked Profile :=
  Profile.mk <$> required members "url" (fun value => (text value).map withoutTrailingSlashes)
    <*> allowed members "tenant_id" "" text
    <*> allowed members "client_id" "" text
    <*> allowed members "client_secret" none (nullable text)
    <*> allowed members "solution" none (nullable text)
    <*> allowed members "description" "" text

end ErdDeploy
