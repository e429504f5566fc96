import GitvTime.Source.UserInfo.AppVersion
import GitvTime.Source.UserInfo.MysqlSync

/-!
# Statements built as text

`AppVersionUpdate_Bolt` of userinfo-app-version formats its update statements and
`QueueConsumer` of userinfo-consumer-mysql concatenates the one for a mac that MySQL
does not know. The other statements of both modules are prepared and bound.
-/
namespace GitvTime.Source.UserInfo.Cql
open GitvTime.Source.UserInfo.AppVersion (VersionColumn Upgrade columnOf)
open GitvTime.Source.RmConsumer (Partner)

def UPDATE_USERINFO_Map1 : String :=
  "UPDATE user_info SET livod_app_version='%s', livod_update_history = livod_update_history + " ++
    "\x7b '%s' : '%s'\x7d WHERE partner='%s' and mac_addr='%s';"

def UPDATE_USERINFO_Map2 : String :=
  "UPDATE user_info SET vod_app_version='%s', vod_update_history = vod_update_history + " ++
    "\x7b '%s' : '%s'\x7d WHERE partner='%s' and mac_addr='%s';"

def UPDATE_USERINFO_Map3 : String :=
  "UPDATE user_info SET cnm_app_version='%s', cnm_update_history = cnm_update_history + " ++
    "\x7b '%s' : '%s'\x7d WHERE partner='%s' and mac_addr='%s';"

/-- The statement behind each case of the `switch (type)`. -/
def updateUserinfo : VersionColumn → String
  | .livod => UPDATE_USERINFO_Map1
  | .vod => UPDATE_USERINFO_Map2
  | .cnm => UPDATE_USERINFO_Map3

/-- `String.format` of a text whose only conversion is `%s`; it throws when an
argument is missing. -/
def format : List Char → List String → Option (List Char)
  | [], _ => some []
  | '%' :: 's' :: rest, arg :: args => (format rest args).map (arg.toList ++ ·)
  | '%' :: _, _ => none
  | char :: rest, args => (format rest args).map (char :: ·)

/-- `Mapper.update_uif_map_cql`. -/
def updateUifMapCql (cql app_version log_time partner mac_addr : String) : Option String :=
  (format cql.toList [app_version, app_version, log_time, partner, mac_addr]).map String.ofList

/-- The statement that `execute` of `AppVersionUpdate_Bolt` sends for an emitted upgrade. -/
def cqlExecute (input : Upgrade) : Option String :=
  match input.enumtype.bind columnOf, input.appVersion, input.logtime, input.partner, input.mac with
  | some column, some app_version, some logtime, some partner, some mac =>
    updateUifMapCql (updateUserinfo column) app_version logtime partner mac
  | _, _, _, _, _ => none

/-- `noFoundMac` of `QueueConsumer.run`. -/
def noFoundMac (ts routingKey mac : String) : String :=
  "update not_found_from_mysql set ts='" ++ ts ++ "' where partner ='" ++ routingKey ++ "'" ++
    "and mac='" ++ mac ++ "'"

/-- The statement for a mac that came at this time to a partner's consumer. -/
def notFound (currentTimeMillis : Int) (partner : Partner) (mac : String) : String :=
  noFoundMac (toString currentTimeMillis) partner.routingKey mac

end GitvTime.Source.UserInfo.Cql
