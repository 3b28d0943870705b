import ControlPlane.Basic

/-!
# Validators of names

The patterns and lists that subdomains and app names are checked against.
-/

namespace ControlPlane

/-- `BUSINESS_APPS`. -/
def businessApps : List String :=
  ["crm", "hrms", "frappe_whatsapp", "posawesome", "lms", "helpdesk", "payments", "lending"]

/-- `BLOCKLIST`. -/
def blocklist : List String :=
  ["admin", "api", "platform", "billing", "mail", "smtp", "ns1", "ns2", "www", "ftp", "ssh", "vpn", "cdn", "blenko",
    "support", "help", "status", "monitor", "metrics", "grafana"]

def isLowerAlnum (c : Char) : Bool := ('a' ≤ c && c ≤ 'z') || ('0' ≤ c && c ≤ '9')

/-- `SUBDOMAIN_PATTERN`: one letter or digit, or a letter or digit at both ends of 1 to 61 letters, digits and
hyphens. -/
def matchesSubdomainPattern (text : String) : Bool :=
  match text.toList with
  | [] => false
  | [c] => isLowerAlnum c
  | c :: rest =>
    isLowerAlnum c && (rest.getLast?.map isLowerAlnum).getD false && rest.all (fun d => isLowerAlnum d || d == '-') &&
      2 ≤ rest.length && rest.length ≤ 62

/-- `APP_PATTERN`: a letter and 1 to 30 letters, digits, underscores and hyphens. -/
def matchesAppPattern (text : String) : Bool :=
  match text.toList with
  | [] => false
  | c :: rest =>
    ('a' ≤ c && c ≤ 'z') && rest.all (fun d => isLowerAlnum d || d == '_' || d == '-') && 1 ≤ rest.length &&
      rest.length ≤ 30

def validateSubdomain (subdomain : String) : Except PyError String :=
  let cleaned := normalize subdomain
  if cleaned ∈ blocklist then .error (.valueError "This subdomain is reserved")
  else if ¬matchesSubdomainPattern cleaned then .error (.valueError "Invalid subdomain")
  else .ok cleaned

def validateAppName (appName : String) : Except PyError String :=
  let cleaned := normalize appName
  if ¬matchesAppPattern cleaned then .error (.valueError "Invalid app name")
  else if cleaned ∉ "erpnext" :: businessApps then .error (.valueError "App is not allowlisted")
  else .ok cleaned

end ControlPlane
