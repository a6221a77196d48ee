import FormulaOcr.Disk.Tree
import FormulaOcr.Json.Writer

/-! The messages of the service: English ones that need no file, and the tables that are installed
with the service. -/

namespace FormulaOcr.Localization

def builtIn : List (String × String) :=
  [("errors.simpletex_not_configured", "SimpleTex token is not configured"),
   ("errors.siliconflow_not_configured",
    "Please configure a SiliconFlow API key in settings first"),
   ("errors.no_model_selected", "No model selected"),
   ("errors.simpletex_unauthorized", "SimpleTex token is invalid or expired"),
   ("errors.simpletex_quota", "SimpleTex quota is used up"),
   ("errors.simpletex_failed", "SimpleTex recognition failed: \x7bcode\x7d"),
   ("errors.simpletex_http", "SimpleTex API error: \x7bstatus\x7d"),
   ("errors.request_failed", "Request failed: \x7bdetail\x7d"),
   ("errors.bad_response", "Failed to parse response: \x7bdetail\x7d"),
   ("errors.image_missing", "No image provided"),
   ("errors.image_decode", "Base64 decoding failed: \x7bdetail\x7d"),
   ("errors.image_too_small",
    "Image is too small: this model requires at least 28×28 pixels, please use a larger image"),
   ("errors.api_failed", "API call failed: \x7bstatus\x7d"),
   ("errors.provider_message", "\x7bmessage\x7d"),
   ("errors.unknown_mode", "Unsupported recognition mode: \x7bmode\x7d"),
   ("errors.unknown_provider", "Unknown provider: \x7bprovider\x7d"),
   ("errors.invalid_url", "Cannot open link: \x7burl\x7d"),
   ("errors.unknown_action", "Unknown action: \x7baction\x7d"),
   ("errors.bad_message", "Malformed message: expected a JSON object"),
   ("settings.simpletex_token_invalid", "SimpleTex token is invalid and has been cleared"),
   ("settings.siliconflow_key_invalid", "SiliconFlow API key is invalid and has been cleared"),
   ("probe.token_missing", "No token entered"),
   ("probe.key_missing", "No API key entered"),
   ("probe.network_error", "Network error: \x7bdetail\x7d"),
   ("probe.token_invalid", "Token is invalid or expired"),
   ("probe.no_resource", "No resources available (quota used up)"),
   ("probe.server_error", "Server error (HTTP \x7bstatus\x7d)"),
   ("probe.key_invalid", "API key is invalid"),
   ("probe.http_status", "HTTP \x7bstatus\x7d"),
   ("probe.unknown_error", "Unknown error"),
   ("models.simpletex_provider", "SimpleTex"),
   ("models.siliconflow_provider", "SiliconFlow"),
   ("models.simpletex.latex_ocr", "SimpleTex Standard"),
   ("models.simpletex.latex_ocr_turbo", "SimpleTex Turbo"),
   ("models.simpletex.simpletex_ocr", "SimpleTex General"),
   ("pricing.free_per_day", "\x7bcount\x7d free per day"),
   ("pricing.unknown", "Price unknown"),
   ("pricing.free", "Free"),
   ("pricing.priced", "In ¥\x7binput\x7d / Out ¥\x7boutput\x7d"),
   ("recognition.simpletex_label", "SimpleTex (\x7bname\x7d)")]

/-- The table of the English file: what differs from the built-in messages. -/
def english : List (String × String) :=
  [("models.siliconflow_provider", "SiliconFlow")]

/-- The table of the Chinese file. -/
def chinese : List (String × String) :=
  [("errors.simpletex_not_configured", "SimpleTex Token 未配置"),
   ("errors.siliconflow_not_configured", "请先在设置中配置硅基流动 API Key"),
   ("errors.no_model_selected", "未选择模型"),
   ("errors.simpletex_unauthorized", "SimpleTex Token 无效或已过期"),
   ("errors.simpletex_quota", "SimpleTex 额度已用完"),
   ("errors.simpletex_failed", "SimpleTex 识别失败: \x7bcode\x7d"),
   ("errors.simpletex_http", "SimpleTex API 错误: \x7bstatus\x7d"),
   ("errors.request_failed", "请求失败: \x7bdetail\x7d"),
   ("errors.bad_response", "解析响应失败: \x7bdetail\x7d"),
   ("errors.image_missing", "未提供图片"),
   ("errors.image_decode", "Base64 解码失败: \x7bdetail\x7d"),
   ("errors.image_too_small", "图片尺寸太小，该模型要求最小 28×28 像素，请使用更大的图片"),
   ("errors.api_failed", "API 调用失败: \x7bstatus\x7d"),
   ("errors.unknown_mode", "不支持的识别模式: \x7bmode\x7d"),
   ("errors.unknown_provider", "未知的服务商: \x7bprovider\x7d"),
   ("errors.invalid_url", "无法打开链接: \x7burl\x7d"),
   ("errors.unknown_action", "未知的操作: \x7baction\x7d"),
   ("errors.bad_message", "消息格式错误: 应为 JSON 对象"),
   ("settings.simpletex_token_invalid", "SimpleTex Token 无效，已清除"),
   ("settings.siliconflow_key_invalid", "硅基流动 API Key 无效，已清除"),
   ("probe.token_missing", "未填写 Token"),
   ("probe.key_missing", "未填写 API Key"),
   ("probe.network_error", "网络错误: \x7bdetail\x7d"),
   ("probe.token_invalid", "Token 无效或已过期"),
   ("probe.no_resource", "无可用资源（额度已用完）"),
   ("probe.server_error", "服务器错误 (HTTP \x7bstatus\x7d)"),
   ("probe.key_invalid", "API Key 无效"),
   ("probe.http_status", "HTTP \x7bstatus\x7d"),
   ("probe.unknown_error", "未知错误"),
   ("models.siliconflow_provider", "硅基流动"),
   ("models.simpletex.latex_ocr", "SimpleTex 标准模型"),
   ("models.simpletex.latex_ocr_turbo", "SimpleTex 轻量模型"),
   ("models.simpletex.simpletex_ocr", "SimpleTex 通用识别"),
   ("pricing.free_per_day", "每日免费 \x7bcount\x7d 次"),
   ("pricing.unknown", "价格未知"),
   ("pricing.free", "免费"),
   ("pricing.priced", "入¥\x7binput\x7d/出¥\x7boutput\x7d")]

/-- Where the tables are installed. -/
def directory : Path :=
  Path.ofString "/usr/share/formula-ocr/static/locales"

/-- The text of a table file. -/
def fileText (table : List (String × String)) : List Char :=
  Json.write Json.indented (.obj (table.map fun (key, text) => (key, .str text)))

/-- A disk on which the tables are installed. -/
def install (disk : Disk) : Disk :=
  let file (d : Disk) (name : String) (table : List (String × String)) : Disk :=
    d.put (directory.steps ++ [name]) (.file (Encoding.Utf8.encode (fileText table)))
  let disk := (disk.makeDirectories directory).2
  file (file disk "en.json" english) "zh.json" chinese

end FormulaOcr.Localization
