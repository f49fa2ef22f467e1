import StructGen.Text.CharacterName.Run

/-!
# Names of the characters from U+1D00
-/

namespace StructGen.Text.CharacterName

/-- The names of the characters from U+1D00 up to U+244A. -/
def namesFrom1D00 : List Run := [
  ⟨0x1D00, ["uqkoeA;4AE;1okzcAE;1koeBARRED B;4C;4D;4ETH;4E;1okzcweE;4I;1koeJ;4K;4Lpyd;4M;4xfN;",
    "4O;4weO;1okSIDEWAYS O;4weO;4Opyd;3zcOE;1koeOU;1okTOPtnO;3qwtnO;1koeP;4xfR;4zcR;4T;4U;",
    "1okSIDEWAYS U;4DIAERESIZED U;4zcM;1koeV;4W;4Z;4EZH;2VOICED LARYNGEAL SPIRANT;2AIN;",
    "tjkoeGAMMA;4LAMDA;4PI;4RHO;4PSI;CYRILLICkoeEL;vkkeA;3AE;3B;3BARRED B;3D;3E;3xfE;3G;3H;3I;",
    "3J;3K;3L;3M;3N;3xfN;3O;3OU;3P;3R;3T;3U;3W;2oA;3zcA;3qe;3zcAE;3B;3D;3E;3SCHWA;3weE;3zcweE;",
    "3G;3zcI;3K;3M;3ENG;3O;3weO;3TOPtnO;3qwtnO;3P;3T;3U;3SIDEWAYS U;3zcM;3V;3AIN;3BETA;",
    "3tjGAMMA;3DELTA;3tjPHI;3CHI;uqSUBSCRIPTokI;4R;4U;4V;tjSUBSCRIPTokBETA;4GAMMA;4RHO;4PHI;",
    "4CHI;uqokUE;3Bpvjys;3Dpvjys;3Fpvjys;3Mpvjys;3Npvjys;3Ppvjys;3Rpvjys;5FISHHOOKbvjys;",
    "3Spvjys;3Tpvjys;3Zpvjys;3zcG;vkkCYRILLIC EN;uqokueG;3THpSTRIKETHROUGH;2ekIpyd;2kIOTApyd;",
    "3Ppyd;2ekUpyd;2kzjpyd;3Bpwmty;3Dpwmty;3Fpwmty;3Gpwmty;3Kpwmty;3Lpwmty;3Mpwmty;3Npwmty;",
    "3Ppwmty;3Rpwmty;3Spwmty;3ESHpwmty;3Vpwmty;3Xpwmty;3Zpwmty;3Apxdty;3qepxdty;3Dptybyk;",
    "3Epxdty;3weEpxdty;3xfweEpxdty;3SCHWApxdty;3Ipxdty;3weOpxdty;3ESHpxdty;3Upxdty;3EZHpxdty;",
    "vkkozcqe;3C;4pCURL;3ETH;3xfweE;3F;3DOTLESS Jpyd;3xlG;3zcH;3Ipyd;3IOTA;3eI;5pyd;",
    "3JpCROSSED-TAIL;3Lpxdty;5wmty;3eL;3Mpty;3zcMpuyLEG;3Npjty;5xdty;3eN;3BARRED O;3PHI;3Spty;",
    "3ESH;3Tpwmty;3Uqr;3zj;3eU;3Vpty;3zcV;3Z;4pxdty;5CURL;3EZH;3THETA;rmslthqb;2qcqb;1SNAKEd;",
    "1SUSPENSIONve;1MACRON-ACUTE;1GRAVE-MACRON;1MACRON-GRAVE;1ACUTE-MACRON;1GRAVE-ACUTE-GRAVE;",
    "1ACUTE-GRAVE-ACUTE;1uqokRd;1BREVE-MACRON;1MACRON-BREVE;1fria;1OGONEKa;1ZIGZAGd;1ISd;1URa;",
    "1USa;1uqokFLATTENEDweAa;4AE;4AO;4AV;4Crc;4ueD;4ETH;4G;2koeG;2okK;4L;2koeL;5M;2okN;2koeN;",
    "5R;2okR ROTUNDA;4S;4uyS;4Z;4qe;4B;4BETA;4SCHWA;4F;4Lpfvjys;4OpuvCENTRALIZATIONyd;4P;4ESH;",
    "4UpuvCENTRALIZATIONyd;4W;4Apsd;4Opsd;4Upsd;1zgTACKa;1KAVYKAal;3j;1sjaj;1WIDEuhBRIDGEd;",
    "1sjdj;1DELETIONve;1fuhqyd;1ALMOSTsuyud;1jqoa;1lqobsnqod;uqekApxhd;1okApxhd;1ekBpsja;",
    "1okBpsja;1ekBpsjd;1okBpsjd;1ekBpuwd;1okBpuwd;1ekCprcbqc;1okCprcbqc;1ekDpsja;1okDpsja;",
    "1ekDpsjd;1okDpsjd;1ekDpuwd;1okDpuwd;1ekDprc;1okDprc;1ekDprid;1okDprid;1ekEpvcbth;",
    "1okEpvcbth;1ekEpvcbqc;1okEpvcbqc;1ekEprid;1okEprid;1ekEpysd;1okEpysd;1ekEprcbqy;",
    "1okEprcbqy;1ekFpsja;1okFpsja;1ekGpvc;1okGpvc;1ekHpsja;1okHpsja;1ekHpsjd;1okHpsjd;1ekHpsd;",
    "1okHpsd;1ekHprc;1okHprc;1ekHpqyd;1okHpqyd;1ekIpysd;1okIpysd;1ekIpsdbqc;1okIpsdbqc;1ekKpqc;",
    "1okKpqc;1ekKpsjd;1okKpsjd;1ekKpuwd;1okKpuwd;1ekLpsjd;1okLpsjd;1ekLpsjdbvc;1okLpsjdbvc;",
    "1ekLpuwd;1okLpuwd;1ekLprid;1okLprid;1ekMpqc;1okMpqc;1ekMpsja;1okMpsja;1ekMpsjd;1okMpsjd;",
    "1ekNpsja;1okNpsja;1ekNpsjd;1okNpsjd;1ekNpuwd;1okNpuwd;1ekNprid;1okNprid;1ekOpysbqc;",
    "1okOpysbqc;1ekOpysbsd;1okOpysbsd;1ekOpvcbth;1okOpvcbth;1ekOpvcbqc;1okOpvcbqc;1ekPpqc;",
    "1okPpqc;1ekPpsja;1okPpsja;1ekRpsja;1okRpsja;1ekRpsjd;1okRpsjd;1ekRpsjdbvc;1okRpsjdbvc;",
    "1ekRpuwd;1okRpuwd;1ekSpsja;1okSpsja;1ekSpsjd;1okSpsjd;1ekSpqcbsja;1okSpqcbsja;1ekSprbbsja;",
    "1okSprbbsja;1ekSpsjdbsja;1okSpsjdbsja;1ekTpsja;1okTpsja;1ekTpsjd;1okTpsjd;1ekTpuwd;",
    "1okTpuwd;1ekTprid;1okTprid;1ekUpsdd;1okUpsdd;1ekUpysd;1okUpysd;1ekUprid;1okUprid;",
    "1ekUpysbqc;1okUpysbqc;1ekUpvcbsd;1okUpvcbsd;1ekVpys;1okVpys;1ekVpsjd;1okVpsjd;1ekWpth;",
    "1okWpth;1ekWpqc;1okWpqc;1ekWpsd;1okWpsd;1ekWpsja;1okWpsja;1ekWpsjd;1okWpsjd;1ekXpsja;",
    "1okXpsja;1ekXpsd;1okXpsd;1ekYpsja;1okYpsja;1ekZpri;1okZpri;1ekZpsjd;1okZpsjd;1ekZpuwd;",
    "1okZpuwd;3Hpuwd;3Tpsd;3Wpxha;3Ypxha;3Apltnxh;3uySpsja;6seyd;6twyd;1ekSHARP S;1okDELTA;",
    "1ekApsjd;1okApsjd;1ekAptya;1okAptya;1ekApribqc;1okApribqc;1ekApribth;1okApribth;",
    "1ekApribtya;1okApribtya;1ekApribys;1okApribys;1ekApribsjd;1okApribsjd;1ekApqybqc;",
    "1okApqybqc;1ekApqybth;1okApqybth;1ekApqybtya;1okApqybtya;1ekApqybys;1okApqybys;",
    "1ekApqybsjd;1okApqybsjd;1ekEpsjd;1okEpsjd;1ekEptya;1okEptya;1ekEpys;1okEpys;1ekEpribqc;",
    "1okEpribqc;1ekEpribth;1okEpribth;1ekEpribtya;1okEpribtya;1ekEpribys;1okEpribys;",
    "1ekEpribsjd;1okEpribsjd;1ekIptya;1okIptya;1ekIpsjd;1okIpsjd;1ekOpsjd;1okOpsjd;1ekOptya;",
    "1okOptya;1ekOpribqc;1okOpribqc;1ekOpribth;1okOpribth;1ekOpribtya;1okOpribtya;1ekOpribys;",
    "1okOpribys;1ekOpribsjd;1okOpribsjd;1ekOpHORNbqc;1okOpHORNbqc;1ekOpHORNbth;1okOpHORNbth;",
    "1ekOpHORNbtya;1okOpHORNbtya;1ekOpHORNbys;1okOpHORNbys;1ekOpHORNbsjd;1okOpHORNbsjd;",
    "1ekUpsjd;1okUpsjd;1ekUptya;1okUptya;1ekUpHORNbqc;1okUpHORNbqc;1ekUpHORNbth;1okUpHORNbth;",
    "1ekUpHORNbtya;1okUpHORNbtya;1ekUpHORNbys;1okUpHORNbys;1ekUpHORNbsjd;1okUpHORNbsjd;1ekYpth;",
    "1okYpth;1ekYpsjd;1okYpsjd;1ekYptya;1okYptya;1ekYpys;1okYpys;1ekMIDDLE-WELSH LL;",
    "1okMIDDLE-WELSH LL;1ekMIDDLE-WELSH V;1okMIDDLE-WELSH V;1ekYpLOOP;1okYpLOOP;tjokqepwu;5rz;",
    "5wubzl;5rzbzl;5wubwk;5rzbwk;5wubwo;5rzbwo;1ekqepwu;5rz;5wubzl;5rzbzl;5wubwk;5rzbwk;5wubwo;",
    "5rzbwo;1okstpwu;5rz;5wubzl;5rzbzl;5wubwk;5rzbwk;;;1ekstpwu;5rz;5wubzl;5rzbzl;5wubwk;",
    "5rzbwk;;;1okETApwu;5rz;5wubzl;5rzbzl;5wubwk;5rzbwk;5wubwo;5rzbwo;1ekETApwu;5rz;5wubzl;",
    "5rzbzl;5wubwk;5rzbwk;5wubwo;5rzbwo;1okIOTApwu;5rz;5wubzl;5rzbzl;5wubwk;5rzbwk;5wubwo;",
    "5rzbwo;1ekIOTApwu;5rz;5wubzl;5rzbzl;5wubwk;5rzbwk;5wubwo;5rzbwo;1okwcpwu;5rz;5wubzl;",
    "5rzbzl;5wubwk;5rzbwk;;;1ekwcpwu;5rz;5wubzl;5rzbzl;5wubwk;5rzbwk;;;1okzjpwu;5rz;5wubzl;",
    "5rzbzl;5wubwk;5rzbwk;5wubwo;5rzbwo;;1ekzjprz;;6bzl;;7wk;;7wo;1okwbpwu;5rz;5wubzl;5rzbzl;",
    "5wubwk;5rzbwk;5wubwo;5rzbwo;1ekwbpwu;5rz;5wubzl;5rzbzl;5wubwk;5rzbwk;5wubwo;5rzbwo;",
    "1okqepzl;5wk;3stpzl;5wk;3ETApzl;5wk;3IOTApzl;5wk;3wcpzl;5wk;3zjpzl;5wk;3wbpzl;5wk;;;",
    "3qepwubzy;5rzbzy;5wubzlbzy;5rzbzlbzy;5wubwkbzy;5rzbwkbzy;5wubwobzy;5rzbwobzy;1ekqepwubwt;",
    "5rzbwt;5wubzlbwt;5rzbzlbwt;5wubwkbwt;5rzbwkbwt;5wubwobwt;5rzbwobwt;1okETApwubzy;5rzbzy;",
    "5wubzlbzy;5rzbzlbzy;5wubwkbzy;5rzbwkbzy;5wubwobzy;5rzbwobzy;1ekETApwubwt;5rzbwt;5wubzlbwt;",
    "5rzbzlbwt;5wubwkbwt;5rzbwkbwt;5wubwobwt;5rzbwobwt;1okwbpwubzy;5rzbzy;5wubzlbzy;5rzbzlbzy;",
    "5wubwkbzy;5rzbwkbzy;5wubwobzy;5rzbwobzy;1ekwbpwubwt;5rzbwt;5wubzlbwt;5rzbzlbwt;5wubwkbwt;",
    "5rzbwkbwt;5wubwobwt;5rzbwobwt;1okqepVRACHY;5vc;5zlbzy;5zy;5wkbzy;;5wo;6bzy;1ekqepVRACHY;",
    "5vc;5zl;5wk;5wt;1KORONIS;1wt;1wu;1wo;1sfbwo;1okETApzlbzy;5zy;5wkbzy;;5wo;6bzy;1ekstpzl;",
    "5wk;3ETApzl;5wk;5wt;1wubzl;3wk;3wo;1okIOTApVRACHY;5vc;5sfbzl;7wk;;;5wo;5sfbwo;",
    "1ekIOTApVRACHY;5vc;5zl;5wk;;1rzbzl;3wk;3wo;1okzjpVRACHY;5vc;5sfbzl;7wk;3RHOpwu;5rz;3zjpwo;",
    "5sfbwo;1ekzjpVRACHY;5vc;5zl;5wk;3RHOprz;1sfbzl;3wk;1zl;;;1okwbpzlbzy;5zy;5wkbzy;;5wo;6bzy;",
    "1ekwcpzl;5wk;3wbpzl;5wk;5wt;1wk;1rz;;EN QUAD;EM QUAD;EN SPACE;EM SPACE;THREE-PER-EM SPACE;",
    "FOUR-PER-EM SPACE;SIX-PER-EM SPACE;FIGURE SPACE;wvSPACE;THIN SPACE;HAIR SPACE;",
    "zzWIDTH SPACE;2NON-JOINER;2JOINER;LEFT-TO-RIGHTve;RIGHT-TO-LEFTve;HYPHEN;",
    "NON-BREAKING HYPHEN;FIGUREry;ENry;EMry;tzqr;fznuw;1uzuw;jxtxave;lxtxave;xtLOW-9xave;",
    "1HIGH-REVERSED-9xave;jfxave;lfxave;fLOW-9xave;1HIGH-REVERSED-9xave;DAGGER;fDAGGER;BULLET;",
    "yzBULLET;wdsjLEADER;zesjLEADER;tzELLIPSIS;HYPHENATION POINT;uwxn;PARAGRAPHxn;",
    "LEFT-TO-RIGHT EMBEDDING;RIGHT-TO-LEFT EMBEDDING;POP DIRECTIONAL FORMATTING;",
    "LEFT-TO-RIGHT OVERRIDE;RIGHT-TO-LEFT OVERRIDE;NARROW NO-BREAK SPACE;PER MILLEn;1ylypn;",
    "PRIME;fPRIME;zaPRIME;xfPRIME;1fPRIME;1zaPRIME;CARET;xturqhxave;1xgqhxave;REFERENCEve;",
    "fsyve;INTERROBANG;OVERLINE;UNDERTIE;CHARACTER TIE;CARET INSERTION POINT;ASTERISM;",
    "HYPHEN BULLET;teSLASH;jxyqxpQUILL;lxyqxpQUILL;fwzve;wzsyve;sywzve;TIRONIANnET;xfPILCROWn;",
    "quusBULLET;1mBULLET;uzqp;xfSEMICOLON;CLOSEzg;zeASTERISKS ALIGNED VERTICALLY;",
    "COMMERCIAL MINUSn;SWUNGry;uhUNDERTIE;FLOWERwvve;yqsjwv;QUADRUPLE PRIME;tdsjwv;tcsjwv;",
    "zesjwv;tdsjve;slrs;TRICOLON;zntdsk;vhvfSPACE;WORD JOINER;FUNCTION APPLICATION;INVISIBLEyt;",
    "1xn;1wq;;LEFT-TO-RIGHT ISOLATE;RIGHT-TO-LEFT ISOLATE;FIRST STRONG ISOLATE;",
    "POP DIRECTIONAL ISOLATE;INHIBIT SYMMETRIC SWAPPING;ACTIVATE SYMMETRIC SWAPPING;",
    "INHIBITqkhSHAPING;ACTIVATEqkhSHAPING;NATIONALshSHAPES;NOMINALshSHAPES;yfzz;1uqokI;;;1td;",
    "1tc;1xu;1xo;1sr;1vs;1wqn;1MINUS;1svn;1jwn;1lwn;1uqokN;SUBSCRIPTzz;1wd;1ze;1yq;1td;1tc;1xu;",
    "1xo;1sr;1vs;1wqn;1MINUS;1svn;1jwn;1lwn;;uqSUBSCRIPTokA;4E;4O;4X;4SCHWA;4H;4K;4L;4M;4N;4P;",
    "4S;4T"]⟩,
  ⟨0x20A0, ["EURO-CURRENCYn;rln;CRUZEIROn;FRENCH FRANCn;LIRAn;MILLn;NAIRAn;PESETAn;RUPEEn;WONn;",
    "NEW SHEQELn;DONGn;EUROn;KIPn;TUGRIKn;DRACHMAn;GERMAN PENNYn;PESOn;GUARANIn;AUSTRALn;",
    "HRYVNIAn;CEDIn;LIVRE TOURNOISn;SPESMILOn;TENGEn;INDIAN RUPEEn;TURKISH LIRAn;NORDICven;",
    "MANATn;RUBLEn;LARIn;BITCOINn;SOMn"]⟩,
  ⟨0x20D0, ["rmjtta;1ltta;1uyznuwwj;1xrznuwwj;1qica;1rjca;1jca;1lca;1xhwj;1rjxhwj;1qixhwj;",
    "1yqska;1tdska;1ENCLOSINGrg;2xy;2sg;2rgBACKSLASH;1jlca;1ENCLOSING SCREEN;2KEYCAP;",
    "2UPWARDwsyx;1xexwwj;1fznydwj;1ANNUITYyi;1zaUNDERDOT;1WIDE BRIDGEa;1uscwj;1uyfxwwj;",
    "1mttpqssp;1usttpqssp;1jcd;1lcd;1qpa"]⟩,
  ⟨0x2100, ["ACCOUNTvz;ADDRESSEDyuTHE SUBJECT;smeC;DEGREE CELSIUS;rduwyi;CAREvz;CADA UNA;",
    "EULER CONSTANT;SCRUPLE;DEGREE FAHRENHEIT;xloG;1eH;BLACK-LETTEReH;smeH;PLANCK CONSTANT;",
    "2wizePI;xleI;BLACK-LETTEReI;xleL;1oL;L Bqryi;smeN;NUMEROn;SOUND RECORDING COPYRIGHT;xleP;",
    "smeP;2Q;xleR;BLACK-LETTEReR;smeR;PRESCRIPTION TAKE;RESPONSE;SERVICEve;TELEPHONEn;TRADEven;",
    "VERSICLE;smeZ;OUNCEn;OHMn;uhOHMn;BLACK-LETTEReZ;zctjokIOTA;KELVINn;ANGSTROMn;xleB;",
    "BLACK-LETTEReC;ESTIMATEDyi;xloE;1eE;2F;zceF;xleM;1oO;qdyi;BETyi;GIMELyi;DALETyi;",
    "INFORMATION SOURCE;xieQ;FACSIMILEn;smoPI;2GAMMA;1eGAMMA;2PI;1N-ARY SUMMATION;zcxkeG;3L;",
    "xfxkeL;zcxkeY;smITALICeD;2oD;3E;3I;3J;PROPERTYuw;zcAMPERSAND;PERn;AKTIESELSKAB;zcoF;",
    "yiFOR SAMARITAN SOURCE;VULGARtewdSEVENTH;3NINTH;3TENTH;3THIRD;2zeTHIRDS;2wdFIFTH;",
    "2zeFIFTHS;2yqFIFTHS;2tdFIFTHS;2wdSIXTH;2tcSIXTHS;2wdss;2yqEIGHTHS;2tcEIGHTHS;2xoEIGHTHS;",
    "teNUMERATORwd;ROMAN NUMERALwd;2ze;2yq;2td;2tc;2xu;2xo;2sr;2vs;2yl;2ELEVEN;2TWELVE;2ta;",
    "2wdua;2tcua;2wdyp;oROMAN NUMERALwd;3ze;3yq;3td;3tc;3xu;3xo;3sr;3vs;3yl;3ELEVEN;3TWELVE;",
    "3ta;3wdua;3tcua;3wdyp;ROMAN NUMERALwdypC D;2tcyp;2ylyp;2xfwdua;uqokxfC;",
    "ROMAN NUMERALxuLATEh;2taEARLYh;3yp;2wduayp;VULGARtezzTHIRDS;zcshze;2yq"]⟩,
  ⟨0x2190, ["usc;zkc;mc;spc;jlc;zgsnc;vvzsc;1sqc;xxsqc;1zsc;uscpyd;mcpyd;usWAVEc;mWAVEc;",
    "uszeHEADEDc;zkzeHEADEDc;mzeHEADEDc;spzeHEADEDc;uscpyk;mcpyk;uscFROMqr;zkcFROMqr;mcFROMqr;",
    "spcFROMqr;zgsncpBASE;uscpty;mcpty;uscpLOOP;mcpLOOP;jlWAVEc;2cpyd;spZIGZAGc;zkcpTIPus;4m;",
    "spcpTIPus;4m;mcprrsp;spcprrus;qiTOP SEMICIRCLEc;rjTOP SEMICIRCLEc;vvzscyuuyqr;",
    "uscyuqrwimcyuqr;qiwergc;rjwergc;usttpqszk;4sp;zkttpqsm;4us;mttpqszk;4sp;spttpqsm;4us;",
    "mcwiusc;zkcusvzspc;uscwimc;1PAIRED ARROWS;zkPAIRED ARROWS;mPAIRED ARROWS;spPAIRED ARROWS;",
    "usttwimtt;mttwiustt;usfcpyd;jlfcpyd;mfcpyd;usfc;zkfc;mfc;spfc;jlfc;zgsnfc;vvzsfc;1sqfc;",
    "xxsqfc;1zsfc;uszac;mzac;usSQUIGGLEc;mSQUIGGLEc;zkcpfyd;spcpfyd;usDASHEDc;zkDASHEDc;",
    "mDASHEDc;spDASHEDc;uscyuqr;mcyuqr;uszuc;zkzuc;mzuc;spzuc;zkzucFROMqr;3ON PEDESTAL;5ptzqr;",
    "6znqr;2fc;4ON PEDESTAL;mzucFROM WALL;vvzscyurr;xxsqcyurr;zgsnzuc;lcporg;spcusvzzkc;",
    "yqmARROWS;uscpznyd;mcpznyd;jlcpznyd;uscpfznyd;mcpfznyd;jlcpfznyd;usOPEN-HEADEDc;",
    "mOPEN-HEADEDc;jlOPEN-HEADEDc;FOR ALL;COMPLEMENT;PARTIAL DIFFERENTIAL;THERE EXISTS;",
    "1DOESvwEXIST;EMPTY SET;INCREMENT;NABLA;ELEMENTvz;vwAN ELEMENTvz;oELEMENTvz;",
    "CONTAINS AS MEMBER;DOESvwCONTAIN AS MEMBER;oCONTAINS AS MEMBER;ENDvzPROOF;N-ARY PRODUCT;",
    "1COPRODUCT;1SUMMATION;MINUSn;MINUS-OR-PLUSn;sjwq;DIVISION SLASH;SET MINUS;qpwf;xhwf;",
    "BULLETwf;xyROOT;CUBE ROOT;FOURTH ROOT;PROPORTIONALyu;INFINITY;lqh;qh;MEASUREDqh;",
    "SPHERICALqh;DIVIDES;DOESvwDIVIDE;PARALLELyu;vwPARALLELyu;LOGICALb;1OR;ug;UNION;uf;fuf;",
    "zauf;CONTOURuf;SURFACEuf;VOLUMEuf;rjuf;1CONTOURuf;qiCONTOURuf;THEREFORE;BECAUSE;RATIO;",
    "PROPORTION;sjMINUS;EXCESS;GEOMETRIC PROPORTION;HOMOTHETIC;yswf;xfys;uhLAZY S;SINE WAVE;",
    "WREATH PRODUCT;vwys;MINUSys;ASYMPTOTICALLYsuyu;vwASYMPTOTICALLYsuyu;APPROXIMATELYsuyu;",
    "1BUTvwACTUALLYsuyu;NEITHER APPROXIMATELY NOR ACTUALLYsuyu;ALMOSTsuyu;vwALMOSTsuyu;",
    "ALMOSTsuORsuyu;zays;ALLsuyu;sxyu;GEOMETRICALLYsxyu;DIFFERENCEqt;APPROACHES THE LIMIT;",
    "GEOMETRICALLYsuyu;APPROXIMATELYsuyuOR THE IMAGEvz;IMAGEvzOR APPROXIMATELYsuyu;rlsv;svrl;",
    "xhINsuyu;1suyu;CORRESPONDSyu;ESTIMATES;EQUIANGULARyu;yasv;DELTAsuyu;suyuBY DEFINITION;",
    "MEASURED BY;QUESTIONEDsuyu;vwsuyu;IDENTICALyu;vwIDENTICALyu;STRICTLYsxyu;utORsuyu;",
    "tiORsuyu;utwisuyu;tiwisuyu;utBUTvwsuyu;tiBUTvwsuyu;MUCHut;1ti;qt;vwsxyu;1ut;1ti;",
    "NEITHERutNORsuyu;1tiNORsuyu;utORsxyu;tiORsxyu;NEITHERutNORsxyu;1tiNORsxyu;utORti;tiORut;",
    "NEITHERutNORti;1tiNORut;PRECEDES;SUCCEEDS;PRECEDES ORsuyu;SUCCEEDS ORsuyu;PRECEDES ORsxyu;",
    "SUCCEEDS ORsxyu;DOESvwPRECEDE;2SUCCEED;yevz;ygvz;vwAyevz;2ygvz;yevzORsuyu;ygvzORsuyu;",
    "NEITHER AyevzNORsuyu;2ygvzNORsuyu;yevzpvwsuyu;ygvzpvwsuyu;MULTISET;1vn;1UNION;xyIMAGEvz;",
    "1ORIGINALvz;1IMAGEvzORsuyu;1ORIGINALvzORsuyu;1CAP;1CUP;rhwq;1MINUS;1yt;1DIVISION SLASH;",
    "1sjwf;1xhwf;1qpwf;1sv;1ry;xzwq;1MINUS;1yt;1sjwf;lTACK;jTACK;snTACK;zgTACK;ASSERTION;",
    "MODELS;TRUE;FORCES;zaznqrlTURNSTILE;fznqrflTURNSTILE;DOESvwPROVE;vwTRUE;DOESvwFORCE;",
    "NEGATEDfznqrflTURNSTILE;PRECEDES UNDER RELATION;SUCCEEDS UNDER RELATION;NORMAL SUBGROUPvz;",
    "CONTAINS AS NORMAL SUBGROUP;NORMAL SUBGROUPvzORsuyu;CONTAINS AS NORMAL SUBGROUP ORsuyu;",
    "ORIGINALvz;IMAGEvz;MULTIMAP;HERMITIAN CONJUGATE MATRIX;INTERCALATE;XOR;NAND;NOR;lqhpARC;",
    "1yx;N-ARY LOGICALb;2OR;1ug;1UNION;sgwf;sjwf;yawf;DIVISIONyt;BOWTIE;",
    "jNORMAL FACTOR SEMIDIRECT PRODUCT;lNORMAL FACTOR SEMIDIRECT PRODUCT;jSEMIDIRECT PRODUCT;",
    "lSEMIDIRECT PRODUCT;xfyssv;rvLOGICAL OR;2b;fye;1yg;1ug;1UNION;PITCHFORK;subPARALLELyu;",
    "utpsj;tipsj;VERY MUCHut;2ti;utsuyuORti;tisuyuORut;suyuORut;3ti;3PRECEDES;3SUCCEEDS;",
    "DOESvwPRECEDE ORsu;2SUCCEED ORsu;vwxyIMAGEvzORsuyu;2ORIGINALvzORsuyu;xyIMAGEvzORvwsuyu;",
    "1ORIGINALvzORvwsuyu;utBUTvwsxyu;tiBUTvwsxyu;PRECEDES BUTvwsxyu;SUCCEEDS BUTvwsxyu;",
    "vwNORMAL SUBGROUPvz;DOESvwCONTAIN AS NORMAL SUBGROUP;vwNORMAL SUBGROUPvzORsuyu;",
    "DOESvwCONTAIN AS NORMAL SUBGROUP ORsu;znELLIPSIS;MIDLINEtzELLIPSIS;zglseELLIPSIS;",
    "snlseELLIPSIS;ELEMENTvzpuytzyd;3znqrAT ENDvztzyd;oELEMENTvzpznqrAT ENDvztzyd;",
    "ELEMENTvzpsja;3OVERBAR;oELEMENTvzpOVERBAR;ELEMENTvzpzf;3zetzSTROKES;CONTAINSpuytzyd;",
    "2znqrAT ENDvztzyd;oCONTAINSpznqrAT ENDvztzyd;CONTAINSpOVERBAR;oCONTAINSpOVERBAR;",
    "Z NOTATION BAG MEMBERSHIP;DIAMETERn;ELECTRICc;HOUSE;zgqo;snqo;PROJECTIVE;PERSPECTIVE;",
    "WAVYuw;jCEILING;lCEILING;jFLOOR;lFLOOR;qwlCROP;1jCROP;TOPlCROP;1jCROP;xfvwn;xyLOZENGE;ARC;",
    "SEGMENT;SECTOR;TELEPHONE RECORDER;POSITION INDICATOR;VIEWDATAxy;PLACEvzINTERESTn;zcvwn;",
    "WATCH;HOURGLASS;TOPjrr;1lrr;qwjrr;1lrr;TOPtnuf;qwtnuf;FROWN;SMILE;zgqoqtzetzBARS;",
    "OPTION KEY;ERASEyuTHEl;X IN A RECTANGLE BOX;KEYBOARD;urqhqx;xgqhqx;ERASEyuTHEj;BENZENExh;",
    "CYLINDRICITY;ALL AROUND-PROFILE;SYMMETRY;TOTAL RUNOUT;DIMENSION ORIGIN;CONICAL TAPER;",
    "SLOPE;COUNTERBORE;COUNTERSINK;APL FUNCTIONALyiI-BEAM;3SQUISH QUAD;3QUADsu;4DIVIDE;4sg;",
    "4JOT;4rg;3rgSTILE;4JOT;3SLASHqr;3BACKSLASHqr;3QUAD SLASH;4BACKSLASH;4ut;4ti;3usVANE;",
    "3mVANE;3QUADusc;4mc;3rgBACKSLASH;3snTACKzf;3DELTA STILE;3QUADsnCARET;4DELTA;3snTACK JOT;",
    "3zkVANE;3QUADzkc;3zgTACK OVERBAR;3DEL STILE;3QUADzgCARET;4DEL;3zgTACK JOT;3spVANE;",
    "3QUADspc;3QUOTEzf;3DELTAzf;3sgzf;3JOTzf;3rgzf;3zgSHOE JOT;3QUOTE QUAD;3rgya;3QUADrl;",
    "3zgTACKsd;3DELsd;3yasd;3JOTsd;3rgsd;3snSHOE STILE;3jSHOE STILE;3yssd;3tisd;3rnqr;3DELys;",
    "3ZILDE;3STILEys;3SEMICOLONzf;3QUADvwsu;4wz;3snCARETys;3zgCARETys;3IOTA;3RHO;3wb;3qezf;",
    "3stzf;3IOTAzf;3wbzf;3qe;vwCHECKve;lqhpspZIGZAGc;SHOULDEREDweBOX;BELLyi;znuwpvjsj;",
    "INSERTIONyi;CONTINUOUS UNDERLINEyi;DISCONTINUOUS UNDERLINEyi;EMPHASISyi;COMPOSITIONyi;",
    "zuxyprdznuw;ENTERyi;ALTERNATIVE KEYyi;HELMyi;rhtzqrpNOTCH;1yxsn;BROKENrgpNORTHWESTc;",
    "UNDOyi;MONOSTABLEyi;HYSTERESISyi;OPEN-CIRCUIT-OUTPUT H-TYPEyi;1L-TYPEyi;",
    "PASSIVE-PULL-DOWN-OUTPUTyi;PASSIVE-PULL-UP-OUTPUTyi;DIRECT CURRENTyihze;",
    "SOFTWARE-FUNCTIONyi;APL FUNCTIONALyiQUAD;DECIMALxnKEYyi;PREVIOUS PAGE;NEXT PAGE;",
    "PRINT SCREENyi;CLEAR SCREENyi;jwnzity;2EXTENSION;2vaty;lwnzity;2EXTENSION;2vaty;jxyqxzirr;",
    "3EXTENSION;3varr;lxyqxzirr;3EXTENSION;3varr;jrvqxzity;3vjPIECE;3vaty;rvqxEXTENSION;",
    "lrvqxzity;3vjPIECE;3vaty;ufEXTENSION;tzuwEXTENSION;zijORvalrvqxxm;1lORvajrvqxxm;",
    "SUMMATION TOP;1qw;TOPxyqx;qwxyqx;3wiTOPxyqx;RADICALyiqw;jznBOXuw;lznBOXuw;tzSCAN LINE-1;",
    "2LINE-3;2LINE-7;2LINE-9;DENTISTRYyiuvznbTOPl;5qwl;4prg;3snbtzprg;3zgbtzprg;3znpyx;",
    "3snbtzpyx;3zgbtzpyx;3znbWAVE;3snbtzpWAVE;3zgbtzpWAVE;3snbtz;3zgbtz;3znbTOPj;5qwj;xyFOOT;",
    "RETURNyi;EJECTyi;znuwEXTENSION;METRICALqy;1uywixr;1xrwiuy;1uywizeSHORTS;1zeSHORTSwiuy;",
    "3JOINED;1TRISEME;1TETRASEME;1PENTASEME;EARTH GROUND;FUSE;TOPwn;qwwn;TOPrvqx;qwrvqx;",
    "TOPywSHELLqx;qwywSHELLqx;zuTRAPEZIUM;BENZENExhprg;STRAIGHTNESS;FLATNESS;AC CURRENT;",
    "ELECTRICALug;DECIMAL EXPONENTyi;quxgfyx;1urfyx;1zhfyx;1sofyx;1xgfyxpznqr;1urfyxpznqr;",
    "1xgyxpfznqr;ALARM CLOCK;STOPWATCH;TIMER CLOCK;HOURGLASSpFLOWING SAND;quvhuryx;2xgyx;2zhyx;",
    "2soyx;fznqr;quxyFORyb;1rgFOR RECORD;POWERyi;1ON-OFFyi;1ONyi;1SLEEPyi;OBSERVER EYEyi;",
    "yiFOR NULL;2STARTvzHEADING;4TEXT;2ENDvzTEXT;4TRANSMISSION;2ENQUIRY;2ACKNOWLEDGE;2BELL;",
    "2BACKSPACE;2tzTABULATION;2uwFEED;2znTABULATION;2hFEED;2CARRIAGE RETURN;2SHIFT OUT;3IN;",
    "2DATA LINK ESCAPE;2DEVICE CONTROLwd;4ze;4yq;4td;2vpACKNOWLEDGE;2SYNCHRONOUS IDLE;",
    "2ENDvzTRANSMISSIONqv;2CANCEL;2ENDvzvh;2SUBSTITUTE;2ESCAPE;2FILExn;2GROUPxn;2RECORDxn;",
    "2UNITxn;2SPACE;2DELETE;BLANKyi;weBOX;yiFOR NEWLINE;2DELETEhze;2SUBSTITUTEhze"]⟩,
  ⟨0x2440, ["OCRty;1CHAIR;1FORK;1uhFORK;1BELT BUCKLE;1BOW TIE;1BRANCH BANK IDENTIFICATION;",
    "1AMOUNTvzCHECK;1ry;1CUSTOMER ACCOUNTvx;1fBACKSLASH"]⟩]

end StructGen.Text.CharacterName
