import LinkHygiene.Rule.Registry

/-!
# Rules that come with the program

The hosts that the program knows without being told. Patterns are consulted only
for rules that list no host names, and all of these list some, so that a host
which only a pattern covers, such as `www.bsky.app`, goes to none of them.
-/

namespace LinkHygiene

namespace Shipped

/-- Posts on X go to a mirror whose pages show them; profiles stay where they are. -/
def twitter : RuleSpec :=
  { name := some "twitter"
    hostnames :=
      ["twitter.com", "www.twitter.com", "x.com", "www.x.com"]
    patterns :=
      ["^(www\\.)?twitter\\.com$", "^(www\\.)?x\\.com$"]
    pathPattern := some "/status/"
    kind := .hostReplace (some "fxtwitter.com")
      { keep := some [] } }

def fxtwitter : RuleSpec :=
  { name := some "fxtwitter"
    hostnames :=
      ["fxtwitter.com", "www.fxtwitter.com", "vxtwitter.com", "www.vxtwitter.com", "fixupx.com",
       "www.fixupx.com"]
    patterns :=
      ["^(www\\.)?fxtwitter\\.com$", "^(www\\.)?vxtwitter\\.com$", "^(www\\.)?fixupx\\.com$"]
    kind := .paramClean
      { keep := some [] } }

def youtube : RuleSpec :=
  { name := some "youtube"
    hostnames :=
      ["youtube.com", "www.youtube.com", "youtu.be", "www.youtu.be"]
    patterns :=
      ["^(www\\.)?youtube\\.com$", "^(www\\.)?youtu\\.be$"]
    kind := .paramClean
      { keep := some ["v", "list", "index", "t"] } }

def bilibili : RuleSpec :=
  { name := some "bilibili"
    hostnames :=
      ["bilibili.com", "www.bilibili.com"]
    patterns :=
      ["^(www\\.)?bilibili\\.com$"]
    kind := .paramClean
      { keep := some ["p", "t"] } }

/-- Pages of the shopping app lead to the page of the item. -/
def taobaoPages : RuleSpec :=
  { name := some "taobao-pages"
    hostnames :=
      ["pages-fast.m.taobao.com"]
    patterns :=
      ["^(www\\.)?pages-fast\\.m\\.taobao\\.com$"]
    kind := .hostReplace (some "item.taobao.com")
      { pathEdits := [⟨"^.*$", "/item.htm"⟩]
        renames := [("itemIds", "id")]
        keep := some ["id"] } }

def jdItem : RuleSpec :=
  { name := some "jd-item"
    hostnames :=
      ["item.m.jd.com"]
    patterns :=
      ["^(www\\.)?item\\.m\\.jd\\.com$"]
    kind := .hostReplace (some "item.jd.com")
      { pathEdits := [⟨"^/product/", "/"⟩]
        keep := some [] } }

/-- The page in between holds the link it guards. -/
def jdRiskHandler : RuleSpec :=
  { name := some "jd-risk-handler"
    hostnames :=
      ["cfe.m.jd.com"]
    patterns :=
      ["cfe\\.m\\.jd\\.com"]
    kind := .paramExtract "returnurl" }

/-- Short links answer only a plain request with the real redirect. -/
def jdShort : RuleSpec :=
  { name := some "jd-short"
    hostnames :=
      ["3.cn"]
    patterns :=
      ["^(www\\.)?3\\.cn$"]
    kind := .getRedirect }

def taobao : RuleSpec :=
  { name := some "taobao"
    hostnames :=
      ["item.taobao.com", "item.m.taobao.com", "a.m.taobao.com", "details.m.taobao.com",
       "item.tmall.com", "detail.tmall.com", "item.m.tmall.com", "detail.m.tmall.com",
       "tmall.com"]
    patterns :=
      ["^(www\\.)?item\\.taobao\\.com$", "^(www\\.)?item\\.m\\.taobao\\.com$",
       "^(www\\.)?a\\.m\\.taobao\\.com$", "^(www\\.)?details\\.m\\.taobao\\.com$",
       "^(www\\.)?item\\.tmall\\.com$", "^(www\\.)?detail\\.tmall\\.com$",
       "^(www\\.)?item\\.m\\.tmall\\.com$", "^(www\\.)?detail\\.m\\.tmall\\.com$",
       "^(www\\.)?tmall\\.com$"]
    kind := .paramClean
      { keep := some ["id", "itemId", "skuId"] } }

def baiduMap : RuleSpec :=
  { name := some "baidu-map"
    hostnames :=
      ["map.baidu.com", "www.map.baidu.com"]
    patterns :=
      ["^(www\\.)?map\\.baidu\\.com$"]
    kind := .paramClean
      { keep := some ["s", "newmap", "uid", "sharecallbackflag", "shareurl", "poiShareUid", "c",
           "wd", "qt", "nb_x", "nb_y", "center_rank", "b", "l"] } }

/-- Places by their query. Short links of the same service are left to the redirect probe. -/
def amap : RuleSpec :=
  { name := some "amap"
    hostnames :=
      ["amap.com", "www.amap.com", "wb.amap.com", "ditu.amap.com"]
    patterns :=
      ["^(www\\.|wb\\.|ditu\\.)?amap\\.com$"]
    kind := .hostReplace (some "www.amap.com")
      { keep := some ["q"] } }

def bluesky : RuleSpec :=
  { name := some "bluesky"
    hostnames :=
      ["bsky.app"]
    patterns :=
      ["^(www\\.)?bsky\\.app$"]
    pathPattern := some "(?i)^/profile/[^/]+/post/[^/]+"
    kind := .hostReplace (some "fxbsky.app")
      { keep := some [] } }

def specs : List RuleSpec :=
  [twitter, fxtwitter, youtube, bilibili, taobaoPages, jdItem,
   jdRiskHandler, jdShort, taobao, baiduMap, amap, bluesky]

end Shipped

def Registry.withShipped (extra : List RuleSpec) : Except RuleError Registry :=
  Registry.ofSpecs (Shipped.specs ++ extra)

end LinkHygiene
